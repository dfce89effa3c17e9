import Casskop.Controller.ReconcileRack
import Casskop.Validation.Changes

/-!
# The reconcile pass

`Reconcile` on a CassandraCluster that could be read.  From the check of the edit
on, every way out of the pass goes through the deferred status update, a panic
included; only a pass that hangs never gets there.
-/

namespace Casskop

/-! ## Before the deferred update -/

def defaultCassandraImage : String := "cassandra:3.11.10"

def defaultMaxPodUnavailable : Int := 1

/-- `CheckDefaults`, as far as the modelled fields go. -/
def CassandraClusterSpec.checkDefaults (spec : CassandraClusterSpec) : CassandraClusterSpec :=
  if spec.cassandraImage = "" then { spec with cassandraImage := defaultCassandraImage }
  else spec

/-- `SetDefaults` on a cluster without phase. -/
def CassandraCluster.setDefaults (cc : CassandraCluster) : CassandraCluster :=
  let spec := cc.spec
  let spec := if spec.nodesPerRacks = 0 then { spec with nodesPerRacks := 1 } else spec
  let rackList := initCassandraRackList spec
  let spec := rackList.spec
  let seedList :=
    if cc.status.seedList.isEmpty then initSeedList cc.metadata spec else cc.status.seedList
  let spec :=
    if spec.maxPodUnavailable = 0 then
      { spec with maxPodUnavailable := defaultMaxPodUnavailable }
    else spec
  let spec :=
    if spec.resources.limits = none then
      { spec with resources := { spec.resources with limits := spec.resources.requests } }
    else spec
  { cc with
    spec := spec
    status :=
      { cc.status with
        phase := .initializing
        cassandraRackStatus := rackList.racks
        seedList := seedList } }

def pvcFinalizer : String := "kubernetes.io/pvc-to-delete"

def updateDeletePvcStrategy (cc : CassandraCluster) : CassandraCluster :=
  let finalizers :=
    if cc.spec.deletePVC then
      if cc.metadata.finalizers.isEmpty then [pvcFinalizer] else cc.metadata.finalizers
    else []
  { cc with metadata := { cc.metadata with finalizers := finalizers } }

/-- `CheckDeletePVC` has something to update. -/
def deletePVCChanged (cc : CassandraCluster) : Bool :=
  match cc.annotation with
  | .config old => cc.spec.deletePVC != old.spec.deletePVC
  | _ => false

/-! ## After the racks -/

/-- One DC of the first loop of `EnsureSeedListIsUpdatedWhenRequired`.  The first
rack that is not configuring ends it; `none` is the nil dereference of a rack
without status. -/
def dcIsConfiguring (racks : GoMap CassandraRackStatus) : List String → Option Bool
  | [] => some true
  | dcRackName :: rest =>
    match racks.lookup dcRackName with
    | none => none
    | some rack =>
      if rack.cassandraLastAction.name = .updateSeedList ∧
          rack.cassandraLastAction.status = .configuring then
        dcIsConfiguring racks rest
      else some (rack.cassandraLastAction.name == .initializing)

def allConfiguring (racks : GoMap CassandraRackStatus) : List (List String) → Option Bool
  | [] => some true
  | dcRackNames :: rest =>
    match dcIsConfiguring racks dcRackNames with
    | none => none
    | some configuring => (allConfiguring racks rest).map (configuring && ·)

def seedListToDo (rack : CassandraRackStatus) : CassandraRackStatus :=
  if rack.phase = .initializing then rack
  else
    { rack with
      cassandraLastAction :=
        { rack.cassandraLastAction with name := .updateSeedList, status := .toDo } }

/-- Second loop of `EnsureSeedListIsUpdatedWhenRequired`; `true` is a nil
dereference. -/
def flagSeedList : List String → GoMap CassandraRackStatus →
    GoMap CassandraRackStatus × Bool
  | [], racks => (racks, false)
  | dcRackName :: rest, racks =>
    match racks.lookup dcRackName with
    | none => (racks, true)
    | some rack => flagSeedList rest (racks.insert dcRackName (seedListToDo rack))

def CassandraClusterSpec.racksOfDC (spec : CassandraClusterSpec) (dc : Nat) : List String :=
  (List.range (spec.getRackSize dc)).map fun rack => (spec.completeRackName dc rack).dcRackName

/-- Names of all racks in loop order. -/
def CassandraClusterSpec.racksInOrder (spec : CassandraClusterSpec) : List String :=
  (List.range spec.getDCSize).flatMap spec.racksOfDC

/-- `EnsureSeedListIsUpdatedWhenRequired`, with its faults. -/
def ensureSeedListIsUpdatedWhenRequired (spec : CassandraClusterSpec)
    (status : CassandraClusterStatus) : CassandraClusterStatus × Bool :=
  if status.lastClusterAction = .updateSeedList ∧
      status.lastClusterActionStatus = .configuring then
    match allConfiguring status.cassandraRackStatus
        ((List.range spec.getDCSize).map spec.racksOfDC) with
    | none => (status, true)
    | some false => (status, false)
    | some true =>
      let flagged := flagSeedList spec.racksInOrder status.cassandraRackStatus
      ({ status with cassandraRackStatus := flagged.1 }, flagged.2)
  else (status, false)

/-- The loop of `UpdateCassandraClusterStatusPhase`; the flags say whether an action
was found that is not done, and whether a rack that is not running ended it. -/
def scanRackPhases : List String → CassandraClusterStatus → Bool →
    CassandraClusterStatus × Bool × Bool
  | [], status, unfinished => (status, unfinished, false)
  | dcRackName :: rest, status, unfinished =>
    match status.cassandraRackStatus.lookup dcRackName with
    | none => scanRackPhases rest status unfinished
    | some rack =>
      let action := rack.cassandraLastAction
      let (status, unfinished) :=
        if action.status ≠ .done then
          ({ status with
              lastClusterActionStatus := action.status
              lastClusterAction := action.name }, true)
        else (status, unfinished)
      if rack.phase ≠ .running then ({ status with phase := rack.phase }, unfinished, true)
      else scanRackPhases rest status unfinished

def updateCassandraClusterStatusPhase (spec : CassandraClusterSpec)
    (status : CassandraClusterStatus) : CassandraClusterStatus :=
  let (status, unfinished, ended) := scanRackPhases spec.racksInOrder status false
  if ended then status
  else
    let status :=
      if unfinished = false ∧ status.lastClusterActionStatus ≠ .done then
        { status with lastClusterActionStatus := .done, phase := .running }
      else status
    if status.phase ≠ .running ∧ status.lastClusterActionStatus = .done then
      { status with phase := .running }
    else status

/-! ## The pass -/

/-- What the operator process remembers between two passes. -/
structure Memory where
  needUpdate : Bool := false
  storedPdb : PodDisruptionBudget
  storedStatefulSet : Option StatefulSet := none

structure ReconcileAnswers where
  init : WriteAnswer
  deletePVC : Except ApiError Nat
  changes : ChangeAnswers
  pdb : Except ApiError PodDisruptionBudget
  racks : Nat × Nat → RackAnswers
  removeFinalizers : Except ApiError Nat
  write : WriteAnswer

/-- The read `ensureCassandraPodDisruptionBudget` makes. -/
def pdbRead (cc : CassandraCluster) (answer : Except ApiError PodDisruptionBudget) :
    PdbRead :=
  { name := cc.metadata.name, ns := cc.metadata.ns, answer := answer }

/-- The nil dereference of a stored budget without `MaxUnavailable`. -/
def pdbFaults : Except ApiError PodDisruptionBudget → Bool
  | .error _ => false
  | .ok pdb => pdb.maxUnavailable.isNone

/-- The pass from `ReconcileRack` on, without the deferred update; the flag tells
that the pass never returns. -/
def reconcileRacksAndPhase (platform : Platform) (answers : ReconcileAnswers) (pass : Pass) :
    Pass × Bool :=
  let run := reconcileRack platform answers.racks answers.removeFinalizers pass
  match run.flow with
  | .hang => (run.pass, true)
  | .fail | .fault => (run.pass, false)
  | .nextRack | .stop =>
    let seeds := ensureSeedListIsUpdatedWhenRequired run.pass.cc.spec run.pass.status
    if seeds.2 then ({ run.pass with status := seeds.1 }, false)
    else
      ({ run.pass with
          status := updateCassandraClusterStatusPhase run.pass.cc.spec seeds.1 }, false)

/-- Everything the deferred update is waiting for. -/
def reconcileChecked (platform : Platform) (answers : ReconcileAnswers) (pass : Pass) :
    Pass × Bool :=
  let check := checkNonAllowedChanges platform pass.needUpdate pass.cc pass.status
    answers.changes
  let checked :=
    { pass with
      cc := { pass.cc with spec := check.spec }
      status := check.status
      needUpdate := check.needUpdate
      effects := pass.effects ++ check.effects }
  if check.stop || check.fault then (checked, false)
  else
    let read := pdbRead checked.cc answers.pdb
    let ready := { checked with storedPdb := read.stored }
    if pdbFaults answers.pdb then (ready, false)
    else reconcileRacksAndPhase platform answers ready

/-- The object updates of a cluster that has no phase yet. -/
def initializeCluster (answers : ReconcileAnswers) (pass : Pass) : Pass :=
  let cc := updateDeletePvcStrategy pass.cc.setDefaults
  match answers.init.update with
  | .error _ =>
    { pass with cc := cc }.emit
      [.putCluster cc.resourceVersion none, .updateObject cc.metadata cc.spec false]
  | .ok version =>
    { pass with
      cc := { cc with resourceVersion := version }.received answers.init.statusUpdate }.emit
      [.putCluster cc.resourceVersion (some version), .updateObject cc.metadata cc.spec true,
        .putCluster version answers.init.statusUpdate.toOption,
        .updateClusterStatus cc.status (Except.succeeded answers.init.statusUpdate)]

/-- The pass once the claim strategy is settled. -/
def reconcileDeferred (platform : Platform) (answers : ReconcileAnswers) (pass : Pass) :
    Pass :=
  let result := reconcileChecked platform answers { pass with status := pass.cc.status }
  if result.2 then result.1 else result.1.updateCassandraStatus answers.write

/-- `Reconcile` on the object that was read. -/
def reconcile (platform : Platform) (memory : Memory) (cc : CassandraCluster)
    (answers : ReconcileAnswers) : Pass :=
  let pass : Pass :=
    { cc := cc
      status := cc.status
      storedPdb := memory.storedPdb
      storedStatefulSet := memory.storedStatefulSet
      needUpdate := memory.needUpdate }
  if cc.status.phase = .unset then initializeCluster answers pass
  else
    let cc := { cc with spec := cc.spec.checkDefaults }
    if deletePVCChanged cc then
      let cc := updateDeletePvcStrategy cc
      let updated := { pass with cc := cc.received answers.deletePVC }.emit
        [.putCluster cc.resourceVersion answers.deletePVC.toOption,
          .updateObject cc.metadata cc.spec (Except.succeeded answers.deletePVC)]
      if Except.succeeded answers.deletePVC then reconcileDeferred platform answers updated
      else updated
    else reconcileDeferred platform answers { pass with cc := cc }

end Casskop
