import Casskop.BackRest.Types
import Casskop.Library.Runs

/-!
# Restores

A CassandraRestore first gets a coordinator, then its restore is posted to the sidecar of
the coordinator, and from then on the operation is followed by its id.  The post and the
patch that records it are two calls: a restore is submitted once only if no post that was
accepted goes unrecorded.
-/

namespace Casskop

/-! ## Calls -/

/-- A response is a pointer that may be nil. -/
structure RestoreAnswers where
  get : Except ApiError Unit
  cluster : Except ApiError Unit
  backup : Except ApiError CassandraBackupSpec
  /-- Names of the pods of the datacenter. -/
  pods : Except ApiError (List String)
  /-- The random number the coordinator is chosen with. -/
  choice : Nat
  now : String
  post : Delivery (Option OperationResponse)
  query : String → Except Unit (Option OperationResponse)
  patch : Delivery Unit

inductive RestoreCall where
  | postRestore (request : RestoreOperationRequest) (answer : Delivery (Option OperationResponse))
  | queryRestore (id : String)
  | patchStatus (status : BackRestStatus) (answer : Delivery Unit)
  deriving DecidableEq, Repr

inductive RestoreResult where
  | reconciled
  | requeueAfter (seconds : Nat)
  | error
  /-- A nil dereference. -/
  | fault
  deriving DecidableEq, Repr

structure RestoreOutcome where
  calls : List RestoreCall := []
  result : RestoreResult
  deriving DecidableEq, Repr

/-! ## The pass -/

section Pass

variable (answers : RestoreAnswers) (restore : CassandraRestore)

/-- `UpdateRestoreStatus` as the last call of a pass. -/
def updateRestoreStatus (before : List RestoreCall) (status : BackRestStatus)
    (updated : RestoreResult) : RestoreOutcome :=
  { calls := before ++ [.patchStatus status answers.patch]
    result := match answers.patch with
      | .answered () => updated
      | .refused | .lost => .error }

def requiredRestore : RestoreOutcome :=
  match answers.pods with
  | .error _ => { result := .requeueAfter 15 }
  | .ok pods =>
    match pods[answers.choice % pods.length]? with
    | none => { result := .error }
    | some coordinator =>
      updateRestoreStatus answers []
        { condition := some { type := .required, lastTransitionTime := answers.now }
          coordinatorMember := coordinator }
        .reconciled

def handleRequiredRestore (backup : CassandraBackupSpec) : RestoreOutcome :=
  match answers.pods with
  | .error _ => { result := .requeueAfter 15 }
  | .ok pods =>
    if !pods.contains restore.status.coordinatorMember then
      -- `PodByName` gives a nil pod, whose hostname is read.
      { result := .fault }
    else
      let post : RestoreCall :=
        .postRestore (restoreOperationRequest restore.spec backup) answers.post
      match answers.post with
      | .refused | .lost => { calls := [post], result := .requeueAfter 15 }
      | .answered none => { calls := [post], result := .fault }
      | .answered (some response) =>
        updateRestoreStatus answers [post]
          { computeRestorationStatus answers.now response with
            coordinatorMember := restore.status.coordinatorMember }
          .reconciled

def checkRestoreOperationState : RestoreOutcome :=
  match answers.pods with
  | .error _ => { result := .requeueAfter 15 }
  | .ok pods =>
    let restoreId := restore.status.id
    if restoreId = "" then { result := .error }
    else if !pods.contains restore.status.coordinatorMember then { result := .fault }
    else
      let query : RestoreCall := .queryRestore restoreId
      match answers.query restoreId with
      -- The coordinator is set in the status before the error is looked at.
      | .error () | .ok none => { calls := [query], result := .fault }
      | .ok (some response) =>
        updateRestoreStatus answers [query]
          { computeRestorationStatus answers.now response with
            coordinatorMember := restore.status.coordinatorMember }
          (if response.state.isInError || response.state.isCompleted then .reconciled
          else .requeueAfter 20)

/-- `Reconcile` of a CassandraRestore. -/
def reconcileRestore : RestoreOutcome :=
  match answers.get with
  | .error .notFound => { result := .reconciled }
  | .error _ => { result := .error }
  | .ok () =>
    match answers.cluster with
    | .error _ =>
      { result := if restore.deletionTimestamp then .reconciled else .error }
    | .ok () =>
      match answers.backup with
      | .error _ => { result := .error }
      | .ok backup =>
        if restore.status.coordinatorMember = "" then requiredRestore answers
        else
          match restore.status.condition with
          | none => { result := .fault }
          | some condition =>
            if condition.type.isRequired then handleRequiredRestore answers restore backup
            else if condition.type.isInProgress then
              checkRestoreOperationState answers restore
            else { result := .reconciled }

end Pass

/-! ## Runs -/

def CassandraRestore.apply (restore : CassandraRestore) : RestoreCall → CassandraRestore
  | .patchStatus status answer =>
    if answer.accepted then { restore with status := status } else restore
  | _ => restore

def CassandraRestore.next (restore : CassandraRestore) (answers : RestoreAnswers) :
    CassandraRestore :=
  (reconcileRestore answers restore).calls.foldl CassandraRestore.apply restore

def restoreCalls : CassandraRestore → List RestoreAnswers → List RestoreCall
  | _, [] => []
  | restore, answers :: later =>
    (reconcileRestore answers restore).calls ++ restoreCalls (restore.next answers) later

/-! ## What a pass does -/

/-- The ways through a pass. -/
inductive RestoreCase (answers : RestoreAnswers) (restore : CassandraRestore) :
    List RestoreCall → Prop where
  | quiet : RestoreCase answers restore []
  | assigned (coordinator : String) (unassigned : restore.status.coordinatorMember = "") :
      RestoreCase answers restore
        [.patchStatus
          { condition := some { type := .required, lastTransitionTime := answers.now }
            coordinatorMember := coordinator } answers.patch]
  | unanswered (request : RestoreOperationRequest) (condition : BackRestCondition)
      (assigned : restore.status.coordinatorMember ≠ "")
      (found : restore.status.condition = some condition) (required : condition.type = .required)
      (unanswered : ∀ response, answers.post ≠ .answered (some response)) :
      RestoreCase answers restore [.postRestore request answers.post]
  | posted (request : RestoreOperationRequest) (condition : BackRestCondition)
      (response : OperationResponse)
      (assigned : restore.status.coordinatorMember ≠ "")
      (found : restore.status.condition = some condition) (required : condition.type = .required)
      (answered : answers.post = .answered (some response)) :
      RestoreCase answers restore
        [.postRestore request answers.post,
          .patchStatus
            { computeRestorationStatus answers.now response with
              coordinatorMember := restore.status.coordinatorMember } answers.patch]
  | unqueried (condition : BackRestCondition)
      (assigned : restore.status.coordinatorMember ≠ "")
      (found : restore.status.condition = some condition) (running : condition.type ≠ .required) :
      RestoreCase answers restore [.queryRestore restore.status.id]
  | queried (condition : BackRestCondition) (response : OperationResponse)
      (assigned : restore.status.coordinatorMember ≠ "")
      (found : restore.status.condition = some condition) (running : condition.type ≠ .required)
      (answered : answers.query restore.status.id = .ok (some response)) :
      RestoreCase answers restore
        [.queryRestore restore.status.id,
          .patchStatus
            { computeRestorationStatus answers.now response with
              coordinatorMember := restore.status.coordinatorMember } answers.patch]

theorem reconcileRestore_case (answers : RestoreAnswers) (restore : CassandraRestore) :
    RestoreCase answers restore (reconcileRestore answers restore).calls := by
  unfold reconcileRestore
  split
  · exact .quiet
  · exact .quiet
  split
  · exact .quiet
  split
  · exact .quiet
  rename_i backup _
  split
  · rename_i unassigned
    unfold requiredRestore
    split
    · exact .quiet
    split
    · exact .quiet
    · exact .assigned _ unassigned
  rename_i assigned
  split
  · exact .quiet
  rename_i condition found
  split
  · rename_i isRequired
    have required : condition.type = .required := beq_iff_eq.mp isRequired
    unfold handleRequiredRestore
    split
    · exact .quiet
    split
    · exact .quiet
    dsimp only
    split
    · rename_i refused
      exact .unanswered _ condition assigned found required (by simp [refused])
    · rename_i lost
      exact .unanswered _ condition assigned found required (by simp [lost])
    · rename_i answered
      exact .unanswered _ condition assigned found required (by simp [answered])
    · rename_i response answered
      exact .posted _ condition response assigned found required answered
  rename_i isRequired
  have running : condition.type ≠ .required := fun required => isRequired (beq_iff_eq.mpr required)
  split
  · unfold checkRestoreOperationState
    split
    · exact .quiet
    dsimp only
    split
    · exact .quiet
    split
    · exact .quiet
    split
    · exact .unqueried condition assigned found running
    · exact .unqueried condition assigned found running
    · rename_i response answered
      exact .queried condition response assigned found running answered
  · exact .quiet

/-! ## One submission -/

/-- A restore the sidecar carries out. -/
def RestoreCall.submits : RestoreCall → Bool
  | .postRestore _ answer => answer.accepted
  | _ => false

/-- Calls that only follow an operation. -/
def RestoreCall.Follows (id : String) : RestoreCall → Prop
  | .postRestore .. => False
  | .queryRestore other => other = id
  | .patchStatus .. => True

/-- A call that may come after another one: nothing is submitted twice, and an operation
whose id was returned is only followed. -/
def RestoreCall.Allows : RestoreCall → RestoreCall → Prop
  | .postRestore _ answer, later =>
    (answer.accepted = true → later.submits = false) ∧
      ∀ response, answer = .answered (some response) → later.Follows response.id
  | _, _ => True

/-- The next post that is accepted is answered and recorded, and the sidecar answers for the
operation it was asked about. -/
structure Recorded (restore : CassandraRestore) (answers : RestoreAnswers) : Prop where
  posted : restore.status.condition.any (fun condition => condition.type.isRequired) →
    answers.post.accepted = true →
    ∃ response, answers.post = .answered (some response) ∧ response.state ≠ .required ∧
      answers.patch.accepted = true
  queried : ∀ id response, answers.query id = .ok (some response) →
    response.id = id ∧ response.state ≠ .required

/-- The operation with this id has been submitted and recorded. -/
structure FollowsOperation (id : String) (restore : CassandraRestore) : Prop where
  id : restore.status.id = id
  assigned : restore.status.coordinatorMember ≠ ""
  started : ∀ condition ∈ restore.status.condition, condition.type ≠ .required

section Steps

variable {restore : CassandraRestore} {answers : RestoreAnswers} {id : String}

theorem RestoreCall.allows_of_not_submits {call : RestoreCall} (quiet : call.submits = false)
    (later : RestoreCall) : call.Allows later := by
  cases call with
  | postRestore request answer =>
    change answer.accepted = false at quiet
    refine ⟨fun accepted => ?_, fun response answered => ?_⟩
    · rw [quiet] at accepted
      cases accepted
    · rw [answered] at quiet
      cases quiet
  | queryRestore => trivial
  | patchStatus => trivial

theorem RestoreCall.Follows.not_submits {call : RestoreCall} (follows : call.Follows id) :
    call.submits = false := by
  cases call with
  | postRestore => exact follows.elim
  | queryRestore => rfl
  | patchStatus => rfl

theorem FollowsOperation.pass (following : FollowsOperation id restore)
    (recorded : Recorded restore answers) :
    (∀ call ∈ (reconcileRestore answers restore).calls, call.Follows id) ∧
      FollowsOperation id (restore.next answers) := by
  have passCase := reconcileRestore_case answers restore
  unfold CassandraRestore.next
  generalize (reconcileRestore answers restore).calls = calls at passCase
  cases passCase with
  | quiet => exact ⟨by simp, following⟩
  | assigned coordinator unassigned => exact absurd unassigned following.assigned
  | unanswered request condition _ found required _ =>
    exact absurd required (following.started condition found)
  | posted request condition response _ found required _ =>
    exact absurd required (following.started condition found)
  | unqueried condition assigned found running =>
    refine ⟨?_, following⟩
    intro call member
    rw [List.mem_singleton.mp member]
    exact following.id
  | queried condition response assigned found running answered =>
    obtain ⟨same, started⟩ := recorded.queried _ response answered
    constructor
    · intro call member
      rcases List.mem_cons.mp member with query | patch
      · rw [query]
        exact following.id
      · rw [List.mem_singleton.mp patch]
        trivial
    · simp only [List.foldl_cons, List.foldl_nil, CassandraRestore.apply]
      split
      · refine ⟨same.trans following.id, assigned, ?_⟩
        intro condition member
        cases member
        exact started
      · exact following

/-- A pass submits nothing, or it posts the restore and records its operation. -/
theorem Recorded.pass (recorded : Recorded restore answers) :
    (∀ call ∈ (reconcileRestore answers restore).calls, call.submits = false) ∨
      ∃ request response status,
        (reconcileRestore answers restore).calls =
          [.postRestore request (.answered (some response)),
            .patchStatus status answers.patch] ∧
        FollowsOperation response.id (restore.next answers) := by
  have passCase := reconcileRestore_case answers restore
  unfold CassandraRestore.next
  generalize (reconcileRestore answers restore).calls = calls at passCase
  cases passCase with
  | quiet => exact Or.inl (by simp)
  | assigned coordinator unassigned => exact Or.inl (by simp [RestoreCall.submits])
  | unanswered request condition assigned found required unanswered =>
    refine Or.inl ?_
    intro call member
    rw [List.mem_singleton.mp member]
    refine Bool.eq_false_iff.mpr fun accepted => ?_
    obtain ⟨response, answered, _⟩ := recorded.posted
      (by simp [found, required, ConditionType.isRequired]) accepted
    exact unanswered response answered
  | posted request condition response assigned found required answered =>
    obtain ⟨_, same, started, patched⟩ := recorded.posted
      (by simp [found, required, ConditionType.isRequired]) (by rw [answered]; rfl)
    cases answered.symm.trans same
    refine Or.inr ⟨request, response, _, by rw [answered], ?_⟩
    simp only [List.foldl_cons, List.foldl_nil, CassandraRestore.apply, patched, if_true]
    refine ⟨rfl, assigned, ?_⟩
    intro condition member
    cases member
    exact started
  | unqueried => exact Or.inl (by simp [RestoreCall.submits])
  | queried => exact Or.inl (by simp [RestoreCall.submits])

end Steps

/-- Whatever comes after the operation was recorded only follows it. -/
theorem restoreCalls_follow {id : String} (passes : List RestoreAnswers) :
    ∀ restore : CassandraRestore, FollowsOperation id restore →
      Runs.Meets CassandraRestore.next Recorded restore passes →
      ∀ call ∈ restoreCalls restore passes, call.Follows id := by
  induction passes with
  | nil =>
    intro restore _ _ call member
    cases member
  | cons answers later induction =>
    intro restore following recorded call member
    obtain ⟨here, next⟩ := following.pass recorded.1
    rcases List.mem_append.mp member with now | after
    · exact here call now
    · exact induction _ next recorded.2 call after

theorem submissions_le_one {calls : List RestoreCall}
    (allowed : calls.Pairwise RestoreCall.Allows) :
    (calls.filter RestoreCall.submits).length ≤ 1 := by
  have both := allowed.filter RestoreCall.submits
  have submit : ∀ call ∈ calls.filter RestoreCall.submits, call.submits = true :=
    fun call member => (List.mem_filter.mp member).2
  generalize calls.filter RestoreCall.submits = submissions at both submit
  cases submissions with
  | nil => exact Nat.zero_le 1
  | cons first others =>
    cases others with
    | nil => exact le_rfl
    | cons second rest =>
      have allows := (List.pairwise_cons.mp both).1 second List.mem_cons_self
      have accepted := submit first List.mem_cons_self
      have again := submit second (List.mem_cons_of_mem _ List.mem_cons_self)
      cases first with
      | postRestore request answer =>
        rw [allows.1 accepted] at again
        cases again
      | queryRestore => cases accepted
      | patchStatus => cases accepted

theorem restoreCalls_allowed (passes : List RestoreAnswers) :
    ∀ restore : CassandraRestore, Runs.Meets CassandraRestore.next Recorded restore passes →
      (restoreCalls restore passes).Pairwise RestoreCall.Allows := by
  induction passes with
  | nil =>
    intro restore _
    exact List.Pairwise.nil
  | cons answers later induction =>
    intro restore recorded
    unfold restoreCalls
    have rest := induction (restore.next answers) recorded.2
    rcases recorded.1.pass with silent | ⟨request, response, status, calls, following⟩
    · refine List.pairwise_append.mpr ⟨?_, rest, ?_⟩
      · exact List.pairwise_of_forall_mem_list fun call member other _ =>
          RestoreCall.allows_of_not_submits (silent call member) other
      · intro call member other _
        exact RestoreCall.allows_of_not_submits (silent call member) other
    · have follow := restoreCalls_follow later _ following recorded.2
      have allowed : ∀ other : RestoreCall, other.Follows response.id →
          (RestoreCall.postRestore request (.answered (some response))).Allows other := by
        intro other follows
        refine ⟨fun _ => follows.not_submits, fun returned same => ?_⟩
        cases same
        exact follows
      rw [calls]
      refine List.pairwise_cons.mpr ⟨?_, List.pairwise_cons.mpr ⟨?_, rest⟩⟩
      · intro other member
        rcases List.mem_cons.mp member with patch | after
        · rw [patch]
          exact allowed _ trivial
        · exact allowed other (follow other after)
      · intro other _
        trivial

/-- If every post that is accepted gets recorded, a restore is submitted at most once, and
its operation is only followed from then on. -/
theorem restore_submitted_once (restore : CassandraRestore) (passes : List RestoreAnswers)
    (recorded : Runs.Meets CassandraRestore.next Recorded restore passes) :
    ((restoreCalls restore passes).filter RestoreCall.submits).length ≤ 1 ∧
      (restoreCalls restore passes).Pairwise RestoreCall.Allows := by
  have allowed := restoreCalls_allowed passes restore recorded
  exact ⟨submissions_le_one allowed, allowed⟩

/-! ## A lost record -/

def healthyPass : RestoreAnswers :=
  { get := .ok ()
    cluster := .ok ()
    backup := .ok
      { cassandraCluster := "demo", storageLocation := "s3://backup", snapshotTag := "t1" }
    pods := .ok ["demo-dc1-rack1-0"]
    choice := 0
    now := "2021-01-01T00:00:00Z"
    post := .answered (some { id := "op-1", state := .pending })
    query := fun id => .ok (some { id := id, state := .completed, percentage := 100 })
    patch := .answered () }

def demoRestore : CassandraRestore :=
  { spec := { cassandraCluster := "demo", cassandraBackup := "nightly" } }

theorem healthyPasses_submit_once :
    ((restoreCalls demoRestore [healthyPass, healthyPass, healthyPass]).filter
        RestoreCall.submits).length ≤ 1 ∧
      (restoreCalls demoRestore [healthyPass, healthyPass, healthyPass]).Pairwise
        RestoreCall.Allows := by
  have recorded : ∀ restore, Recorded restore healthyPass := by
    intro restore
    constructor
    · intro _ _
      exact ⟨_, rfl, by simp, rfl⟩
    · intro id response answered
      cases answered
      exact ⟨rfl, by simp⟩
  exact restore_submitted_once _ _ (Runs.Meets.of_forall (by simpa using recorded))

/-- The patch that should record the operation fails, and the next pass posts the restore
again. -/
theorem restore_submitted_twice :
    ((restoreCalls demoRestore
      [healthyPass, { healthyPass with patch := .refused }, healthyPass]).filter
        RestoreCall.submits).length = 2 := by
  decide +kernel

end Casskop
