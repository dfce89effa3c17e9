import Casskop.BackRest.Restore

/-!
# Restores without their coordinator

The errors that `handleRequiredRestore` and `checkRestoreOperationState` return tell `Reconcile`
when to come back.  `PodByName` gives a nil pod if the coordinator is not listed, and
`RestoreStatusByID` a nil status if the sidecar does not answer.  Both are dereferenced before
an error is looked at.
-/

namespace Casskop

/-- The kinds of errors of `errorfactory`. -/
inductive RestoreError where
  | resourceNotReady
  | sidecarNotReady
  | operationRunning
  | operationFailure
  | other
  deriving DecidableEq

inductive RestoreReturn where
  | returned (error : Option RestoreError)
  /-- A nil dereference. -/
  | fault
  deriving DecidableEq

structure RestoreRun where
  calls : List RestoreCall := []
  ends : RestoreReturn

def podByName (pods : List String) (podName : String) : Option String :=
  pods.find? fun pod => pod == podName

/-- `NewClient` of a pod.  There is none for nil, which `ClusterConfig` dereferences. -/
def newClient (pod : Option String) : Option String := pod

@[simp] theorem newClient_podByName (pods : List String) (name : String) :
    newClient (podByName pods name) = if name ∈ pods then some name else none := by
  unfold newClient podByName
  split
  · rename_i listed
    cases found : pods.find? fun pod => pod == name with
    | none => exact absurd (beq_self_eq_true name) (List.find?_eq_none.mp found name listed)
    | some pod =>
      have same := List.find?_some found
      rw [eq_of_beq same]
  · rename_i absent
    rw [List.find?_eq_none]
    intro pod member same
    exact absent (eq_of_beq same ▸ member)

namespace CassandraRestoreReconciler

variable (answers : RestoreAnswers) (restore : CassandraRestore)

/-- `ComputeRestorationStatus` dereferences the response. -/
@[simp] def computed : Except Unit (Option OperationResponse) → Option (Except Unit BackRestStatus)
  | .error () => some (.error ())
  | .ok none => none
  | .ok (some response) => some (.ok (computeRestorationStatus answers.now response))

@[simp] def performRestore : Option (Except Unit BackRestStatus) :=
  computed answers
    (match answers.post with
    | .refused | .lost => .error ()
    | .answered response => .ok response)

@[simp] def restoreStatusByID (id : String) : Option (Except Unit BackRestStatus) :=
  computed answers (answers.query id)

@[simp] def updateRestoreStatus (before : List RestoreCall) (status : BackRestStatus)
    (error : Option RestoreError) : RestoreRun :=
  { calls := before ++ [.patchStatus status answers.patch]
    ends := .returned (match answers.patch with
      | .answered () => error
      | .refused | .lost => some .other) }

def handleRequiredRestore (backup : CassandraBackupSpec) : RestoreRun :=
  match answers.pods with
  | .error _ => { ends := .returned (some .resourceNotReady) }
  | .ok pods =>
    match newClient (podByName pods restore.status.coordinatorMember) with
    | none => { ends := .fault }
    | some _ =>
      let post : RestoreCall :=
        .postRestore (restoreOperationRequest restore.spec backup) answers.post
      match performRestore answers with
      | none => { calls := [post], ends := .fault }
      | some (.error ()) => { calls := [post], ends := .returned (some .sidecarNotReady) }
      | some (.ok status) =>
        updateRestoreStatus answers [post]
          { status with coordinatorMember := restore.status.coordinatorMember } none

def checkRestoreOperationState : RestoreRun :=
  match answers.pods with
  | .error _ => { ends := .returned (some .resourceNotReady) }
  | .ok pods =>
    let restoreId := restore.status.id
    if restoreId = "" then { ends := .returned (some .other) }
    else
      match newClient (podByName pods restore.status.coordinatorMember) with
      | none => { ends := .fault }
      | some _ =>
        let query : RestoreCall := .queryRestore restoreId
        match restoreStatusByID answers restoreId with
        -- The coordinator is set in the status, which is nil with an error.
        | none | some (.error ()) => { calls := [query], ends := .fault }
        | some (.ok status) =>
          updateRestoreStatus answers [query]
            { status with coordinatorMember := restore.status.coordinatorMember }
            (if status.condition.any fun condition => condition.type.isInError then
              some .operationFailure
            else if status.condition.any fun condition => condition.type.isCompleted then none
            else some .operationRunning)

/-! ## In a pass -/

/-- How `Reconcile` goes on after `handleRequiredRestore`. -/
def afterRequired : RestoreReturn → RestoreResult
  | .fault => .fault
  | .returned none => .reconciled
  | .returned (some .sidecarNotReady) | .returned (some .resourceNotReady) => .requeueAfter 15
  | .returned (some _) => .error

/-- How `Reconcile` goes on after `checkRestoreOperationState`. -/
def afterInProgress : RestoreReturn → RestoreResult
  | .fault => .fault
  | .returned none | .returned (some .operationFailure) => .reconciled
  | .returned (some .sidecarNotReady) | .returned (some .resourceNotReady) => .requeueAfter 15
  | .returned (some .operationRunning) => .requeueAfter 20
  | .returned (some .other) => .error

theorem handleRequiredRestore_pass (backup : CassandraBackupSpec) :
    Casskop.handleRequiredRestore answers restore backup =
      { calls := (handleRequiredRestore answers restore backup).calls
        result := afterRequired (handleRequiredRestore answers restore backup).ends } := by
  unfold Casskop.handleRequiredRestore handleRequiredRestore
  cases answers.pods with
  | error => rfl
  | ok pods =>
    by_cases listed : restore.status.coordinatorMember ∈ pods
    · rcases posted : answers.post with (_ | response) | _ | _ <;>
        cases patched : answers.patch <;>
        simp [listed, posted, patched, afterRequired, Casskop.updateRestoreStatus]
    · simp [listed, afterRequired]

/-- The coordinator is not listed, or a call to the sidecar is not answered. -/
@[simp] def Fails (calls : List RestoreCall) : Prop :=
  (∃ pods, answers.pods = .ok pods ∧ restore.status.coordinatorMember ∉ pods) ∨
    ∃ call ∈ calls, match call with
      | .postRestore _ answer => answer = .refused ∨ answer = .lost
      | .queryRestore id => answers.query id = .error ()
      | .patchStatus .. => False

/-- Nothing that is missing is dereferenced, and a failure is returned as one of the sidecar and
leaves the status alone. -/
@[mk_iff] structure Survives (run : RestoreRun) : Prop where
  returns : run.ends ≠ .fault
  notReady : Fails answers restore run.calls → run.ends = .returned (some .sidecarNotReady) ∧
    (run.calls.foldl CassandraRestore.apply restore).status = restore.status

/-- The coordinator has to be listed.  A post must not be answered with nil, a query has to be
answered with an operation. -/
theorem restore_survives_iff (backup : CassandraBackupSpec) :
    (Survives answers restore (handleRequiredRestore answers restore backup) ↔
      ∀ pods, answers.pods = .ok pods →
        restore.status.coordinatorMember ∈ pods ∧ answers.post ≠ .answered none) ∧
    (Survives answers restore (checkRestoreOperationState answers restore) ↔
      ∀ pods, answers.pods = .ok pods → restore.status.coordinatorMember ∈ pods ∧
        (restore.status.id = "" ∨
          ∃ response, answers.query restore.status.id = .ok (some response))) := by
  rw [survives_iff, survives_iff]
  unfold handleRequiredRestore checkRestoreOperationState
  cases listing : answers.pods with
  | error => simp [listing]
  | ok pods =>
    by_cases listed : restore.status.coordinatorMember ∈ pods
    · constructor
      · rcases posted : answers.post with (_ | response) | _ | _ <;>
          simp [listing, listed, posted, CassandraRestore.apply]
      · by_cases empty : restore.status.id = ""
        · simp [listing, listed, empty]
        · rcases queried : answers.query restore.status.id with _ | _ | response <;>
            simp [listing, listed, empty, queried]
    · by_cases empty : restore.status.id = "" <;> simp [listing, listed, empty]

end CassandraRestoreReconciler

/-! ## A coordinator that is gone -/

/-- The restore runs on a pod that is not listed any more. -/
def strandedRestore : CassandraRestore :=
  { demoRestore with
    status :=
      { condition := some { type := .running, lastTransitionTime := "2021-01-01T00:00:00Z" }
        coordinatorMember := "demo-dc1-rack1-1"
        id := "op-1" } }

/-- Neither function gets to an error, and neither does one whose query fails. -/
theorem strandedRestore_faults :
    (CassandraRestoreReconciler.handleRequiredRestore healthyPass strandedRestore
        { cassandraCluster := "demo", storageLocation := "s3://backup",
          snapshotTag := "t1" }).ends =
      .fault ∧
    (CassandraRestoreReconciler.checkRestoreOperationState healthyPass strandedRestore).ends =
      .fault ∧
    (CassandraRestoreReconciler.checkRestoreOperationState
        { healthyPass with pods := .ok ["demo-dc1-rack1-1"], query := fun _ => .error () }
        strandedRestore).ends = .fault := by
  decide +kernel

end Casskop
