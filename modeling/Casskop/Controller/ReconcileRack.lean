import Casskop.Controller.StorageUpsize

/-!
# The rack loop

`ReconcileRack` visits the racks in the order of the topology.  One iteration may
go on to the next rack, or end the loop in one of several ways.
-/

namespace Casskop

inductive RackFlow where
  | nextRack
  | stop
  | fail
  | fault
  | hang
  deriving DecidableEq, Repr

/-- Reads whose result goroutines left behind by `waitForStatefulSetToBeUpdated`
store in the reconciler while the rack is handled. -/
structure LeftoverWrites where
  beforeDetection : Option PdbRead := none
  beforeWrite : Option PdbRead := none

structure RackAnswers where
  now : Nat
  statefulSet : Except ApiError StatefulSet
  phasePods : Except ApiError (List Pod)
  next : NextAnswers
  handle : HandleAnswers
  upsize : UpsizeAnswers
  ensure : StatefulSetAnswers
  claims : Except ApiError (List PersistentVolumeClaim)
  leftover : LeftoverWrites := {}

structure RackStep where
  pass : Pass
  flow : RackFlow
  newStatus : Bool := false

def Pass.receivePdb (pass : Pass) (written : Option PdbRead) : Pass :=
  { pass with storedPdb := (written.map PdbRead.stored).getD pass.storedPdb }

def waitsForNextPass (rack : CassandraRackStatus) : Bool :=
  rack.phase != .running || rack.cassandraLastAction.status == .toDo ||
    rack.cassandraLastAction.status == .ongoing ||
    rack.cassandraLastAction.status == .continue

/-- The test that closes an iteration. -/
def blocksNextRack (rack : CassandraRackStatus) : Bool :=
  rack.phase != .running || rack.cassandraLastAction.status == .ongoing ||
    rack.cassandraLastAction.status == .finalizing

def Pass.resetUnlock (pass : Pass) : Pass :=
  if pass.cc.spec.unlockNextOperation then
    { pass with
      cc :=
        { pass.cc with spec := { pass.cc.spec with unlockNextOperation := false } }
      needUpdate := true }
  else pass

def Pass.waitIfConfiguring (pass : Pass) (dcRackName : String) : Pass :=
  if pass.status.lastClusterAction = .updateSeedList ∧
      pass.status.lastClusterActionStatus = .configuring then
    pass.emit [.waitForStatefulSet dcRackName]
  else pass

def upsizeFlow : StepResult → RackFlow
  | .pass => .stop
  | .breakLoop => .stop
  | .error => .fail
  | .fault => .fault

def upsizeRack (platform : Platform) (answers : RackAnswers) (names : CompleteRackName)
    (rack : CassandraRackStatus) (pass : Pass) : RackStep :=
  match answers.statefulSet with
  | .error .notFound =>
    let (pass, result) := reconcileStorageUpsize platform answers.now
      { pass with storedStatefulSet := none } names rack answers.upsize
    { pass := pass, flow := upsizeFlow result }
  | .error _ => { pass := pass, flow := .stop }
  | .ok sts =>
    let (pass, result) := reconcileStorageUpsize platform answers.now
      { pass with storedStatefulSet := some sts } names rack answers.upsize
    { pass := pass, flow := upsizeFlow result }

/-- What follows `ensureCassandraStatefulSet` in the iteration. -/
def afterEnsure (dcRackName : String) (result : PodOperationResult) : RackStep :=
  match result.flow with
  | .fault => { pass := result.pass, flow := .fault }
  | .hang => { pass := result.pass, flow := .hang }
  | .breakResyncLoop =>
    { pass := result.pass.resetUnlock.waitIfConfiguring dcRackName, flow := .stop }
  | .continueResyncLoop =>
    let pass := result.pass.resetUnlock
    match pass.rackStatus dcRackName with
    | none => { pass := pass, flow := .fault }
    | some rack =>
      { pass := pass, flow := if blocksNextRack rack then .stop else .nextRack }

/-- Second half of the iteration: storage upsize or StatefulSet update. -/
def applyRack (platform : Platform) (answers : RackAnswers) (names : CompleteRackName)
    (pass : Pass) : RackStep :=
  match pass.rackStatus names.dcRackName with
  | none => { pass := pass, flow := .fault }
  | some rack =>
    if isStorageUpsizeStarted rack then upsizeRack platform answers names rack pass
    else
      afterEnsure names.dcRackName
        (ensureCassandraStatefulSet platform answers.now
          (pass.receivePdb answers.leftover.beforeWrite) names.dcRackName rack
          answers.ensure)

/-- What follows `handlePodOperation` in the iteration. -/
def afterOperation (platform : Platform) (answers : RackAnswers) (names : CompleteRackName)
    (result : PodOperationResult) : RackStep :=
  match result.flow with
  | .fault => { pass := result.pass, flow := .fault }
  | .hang => { pass := result.pass, flow := .hang }
  | .continueResyncLoop => applyRack platform answers names result.pass
  | .breakResyncLoop =>
    match result.pass.rackStatus names.dcRackName with
    | none => { pass := result.pass, flow := .fault }
    | some rack =>
      { pass := result.pass
        flow := if waitsForNextPass rack then .stop else .nextRack }

/-- Pod operations, once the status of the rack is up to date. -/
def operateRack (platform : Platform) (answers : RackAnswers) (names : CompleteRackName)
    (sts : StatefulSet) (rack : CassandraRackStatus) (pass : Pass) : RackStep :=
  if rack.phase = .initializing then applyRack platform answers names pass
  else
    afterOperation platform answers names
      (handlePodOperation platform answers.now pass names.dcRackName rack answers.handle
        (isStatefulSetReady sts))

def Pass.applyNext (pass : Pass) (dcRackName : String) (next : NextStatus) : Pass :=
  let updated := (pass.setRackStatus dcRackName next.rack).emit next.effects
  { updated with
    cc := { pass.cc with spec := next.spec }
    status := { updated.status with seedList := next.seedList }
    storedStatefulSet := next.storedStatefulSet }

/-- First half of the iteration, when the StatefulSet could be read. -/
def observeRack (platform : Platform) (answers : RackAnswers) (dc rack : Nat)
    (names : CompleteRackName) (sts : StatefulSet) (rackStatus : CassandraRackStatus)
    (pass : Pass) : RackStep :=
  match updateCassandraRackStatusPhase answers.now pass.cc.spec names.dcRackName sts
      rackStatus answers.phasePods with
  | .fault => { pass := pass, flow := .fault }
  | .updated rackStatus =>
    let pass := (pass.setRackStatus names.dcRackName rackStatus).receivePdb
      answers.leftover.beforeDetection
    let next := getNextCassandraClusterStatus platform answers.now pass dc rack sts
      rackStatus answers.next
    let pass := pass.applyNext names.dcRackName next
    if next.fault then { pass := pass, flow := .fault }
    else operateRack platform answers names sts next.rack pass

def deletePVCs (answers : RackAnswers) : List Effect :=
  match answers.claims with
  | .error _ => []
  | .ok claims => claims.map fun claim => .deletePVC claim.name

theorem deletePVCs_quiet (answers : RackAnswers) :
    ∀ effect ∈ deletePVCs answers, ∃ name, effect = .deletePVC name := by
  intro effect member
  unfold deletePVCs at member
  split at member
  · cases member
  · obtain ⟨claim, _, rfl⟩ := List.mem_map.mp member
    exact ⟨_, rfl⟩

theorem deletePVCs_unwritten {answers : RackAnswers} (status : CassandraClusterStatus)
    (succeeded : Bool) : .updateClusterStatus status succeeded ∉ deletePVCs answers := by
  intro member
  obtain ⟨_, impossible⟩ := deletePVCs_quiet _ _ member
  cases impossible

def deletesPVCs (cc : CassandraCluster) : Bool :=
  cc.metadata.deletionTimestamp && cc.spec.deletePVC

/-- One iteration of the loop of `ReconcileRack`. -/
def reconcileRackAt (platform : Platform) (answers : RackAnswers) (dc rack : Nat)
    (pass : Pass) : RackStep :=
  let names := pass.cc.spec.completeRackName dc rack
  if names.dcRackName = "" then { pass := pass, flow := .fail }
  else
    match pass.rackStatus names.dcRackName with
    | none =>
      { pass := pass.setRackStatus names.dcRackName initialRackStatus
        flow := .nextRack
        newStatus := true }
    | some rackStatus =>
      if deletesPVCs pass.cc then
        { pass := pass.emit (deletePVCs answers), flow := .nextRack }
      else
        match answers.statefulSet with
        | .error _ => applyRack platform answers names pass
        | .ok sts => observeRack platform answers dc rack names sts rackStatus pass

/-- The loop; `newStatus` records whether some rack was added to the status. -/
def reconcileRacks (platform : Platform) (answers : Nat × Nat → RackAnswers) :
    List (Nat × Nat) → Pass → Bool → RackStep
  | [], pass, newStatus => { pass := pass, flow := .nextRack, newStatus := newStatus }
  | position :: rest, pass, newStatus =>
    let step := reconcileRackAt platform (answers position) position.1 position.2 pass
    match step.flow with
    | .nextRack => reconcileRacks platform answers rest step.pass
        (newStatus || step.newStatus)
    | _ => { step with newStatus := newStatus || step.newStatus }

/-- `ReconcileRack`; `removeFinalizers` answers the update made once the claims of
a deleted cluster are gone. -/
def reconcileRack (platform : Platform) (answers : Nat × Nat → RackAnswers)
    (removeFinalizers : Except ApiError Nat) (pass : Pass) : RackStep :=
  let run := reconcileRacks platform answers pass.cc.spec.rackPositions pass false
  match run.flow with
  | .nextRack =>
    if run.newStatus then { run with flow := .stop }
    else if deletesPVCs run.pass.cc then
      let cc :=
        { run.pass.cc with metadata := { run.pass.cc.metadata with finalizers := [] } }
      { pass :=
          { run.pass with cc := cc.received removeFinalizers }.emit
            [.putCluster cc.resourceVersion removeFinalizers.toOption,
              .updateObject cc.metadata cc.spec (Except.succeeded removeFinalizers)]
        flow := if Except.succeeded removeFinalizers then .stop else .fail }
    else { run with flow := .stop }
  | _ => run

end Casskop
