import Casskop.Api.Topology

/-!
# State and effects of a reconcile pass

A pass is a function of the object it reads and of the answers it gets from the
API server and from Jolokia.  What it does to the outside is a list of effects in
the order of the calls.  A Go panic is a fault: the pass stops where it is, and
only the deferred status update still runs.
-/

namespace Casskop

/-- Functions of libraries, and the part of the generator that the modelled
functions only pass on. -/
structure Platform where
  /-- `resource.ParseQuantity`, its error dropped. -/
  parseQuantity : String → Quantity
  /-- The patch `DefaultPatchMaker.Calculate` computes is empty. -/
  patchIsEmpty : StatefulSet → StatefulSet → Bool
  /-- Pod template and claim templates of `generateCassandraStatefulSet`, or its
  error. -/
  generate : CassandraCluster → CassandraClusterStatus → String →
    Option (PodTemplate × List PersistentVolumeClaim)
  /-- `os.Getenv("POD_NAME")`. -/
  podName : String

inductive OperationMode where
  | normal
  | leaving
  | decommissioned
  | unknown
  | other
  deriving DecidableEq, Repr

/-- Why `ensureDecommission` lets the StatefulSet be updated. -/
inductive DecommissionExit where
  | leftRing (mode : OperationMode)
  | unschedulable
  | otherOperation
  | unknownStatus
  deriving DecidableEq, Repr

/-- What a goroutine running an operation sends on the channel. -/
structure FinalizedOp where
  failed : Bool
  dcRackName : String
  pod : String
  operation : OperationName
  deriving DecidableEq

inductive Effect where
  | createStatefulSet (rack : String) (sts : StatefulSet) (succeeded : Bool)
  | updateStatefulSet (rack : String) (stored sts : StatefulSet) (succeeded : Bool)
  | recreateStatefulSet (rack : String) (sts : StatefulSet) (succeeded : Bool)
  | deleteStatefulSet (rack : String) (succeeded : Bool)
  /-- Deletion that leaves the pods and claims alone. -/
  | orphanStatefulSet (rack : String) (succeeded : Bool)
  /-- A write of the CassandraCluster: the version it carries and the one it gets.  What
  is written comes next. -/
  | putCluster (sent : Nat) (accepted : Option Nat)
  | updateCluster (lastApplied : LastApplied) (succeeded : Bool)
  | updateObject (metadata : ObjectMeta) (spec : CassandraClusterSpec) (succeeded : Bool)
  | updateClusterStatus (status : CassandraClusterStatus) (succeeded : Bool)
  | startDecommission (rack pod : String) (nodesPerRacks : Int)
  | passDecommission (rack pod : String) (reason : DecommissionExit)
  | deletePVC (name : String)
  | updatePVC (name : String) (storage : Quantity)
  | labelPod (pod : String) (labels : List (String × String))
  | startOperation (rack pod : String) (operation : OperationName)
  | monitorOperation (rack pod : String) (operation : OperationName)
  /-- A result is taken from the channel.  `none` is the nil dereference of a rack that
  has no status. -/
  | finalizeOperation (op : FinalizedOp) (recorded : Option PodLastOperation)
  | waitForStatefulSet (rack : String)
  deriving DecidableEq

/-- The rack whose StatefulSet is created, updated or deleted. -/
def Effect.writtenRack : Effect → Option String
  | .createStatefulSet rack .. => some rack
  | .updateStatefulSet rack .. => some rack
  | .recreateStatefulSet rack .. => some rack
  | .deleteStatefulSet rack .. => some rack
  | .orphanStatefulSet rack .. => some rack
  | _ => none

/-- Fields of the reconciler, the working copy of the status, the global flag and
the effects so far. -/
structure Pass where
  cc : CassandraCluster
  status : CassandraClusterStatus
  storedPdb : PodDisruptionBudget
  storedStatefulSet : Option StatefulSet := none
  needUpdate : Bool := false
  effects : List Effect := []
  deriving DecidableEq

namespace Pass

def rackStatus (pass : Pass) (dcRackName : String) : Option CassandraRackStatus :=
  pass.status.cassandraRackStatus.lookup dcRackName

def setRackStatus (pass : Pass) (dcRackName : String) (rack : CassandraRackStatus) :
    Pass :=
  { pass with
    status :=
      { pass.status with
        cassandraRackStatus := pass.status.cassandraRackStatus.insert dcRackName rack } }

def emit (pass : Pass) (effects : List Effect) : Pass :=
  { pass with effects := pass.effects ++ effects }

/-- The StatefulSet writes among the effects. -/
def writes (pass : Pass) : List Effect :=
  pass.effects.filter fun effect => effect.writtenRack.isSome

@[simp] theorem rackStatus_setRackStatus (pass : Pass) (dcRackName : String)
    (rack : CassandraRackStatus) :
    (pass.setRackStatus dcRackName rack).rackStatus dcRackName = some rack := by
  simp [rackStatus, setRackStatus]

theorem rackStatus_setRackStatus_ne (pass : Pass) {dcRackName other : String}
    (rack : CassandraRackStatus) (different : other ≠ dcRackName) :
    (pass.setRackStatus dcRackName rack).rackStatus other = pass.rackStatus other := by
  simp [rackStatus, setRackStatus, Finmap.lookup_insert_of_ne _ different]

@[simp] theorem effects_setRackStatus (pass : Pass) (dcRackName : String)
    (rack : CassandraRackStatus) :
    (pass.setRackStatus dcRackName rack).effects = pass.effects := rfl

@[simp] theorem rackStatus_emit (pass : Pass) (effects : List Effect) (dcRackName : String) :
    (pass.emit effects).rackStatus dcRackName = pass.rackStatus dcRackName := rfl

@[simp] theorem effects_emit (pass : Pass) (effects : List Effect) :
    (pass.emit effects).effects = pass.effects ++ effects := rfl

@[simp] theorem emit_nil (pass : Pass) : pass.emit [] = pass := by
  simp [emit]

end Pass

def hasNoPodDisruption (pdb : PodDisruptionBudget) : Bool :=
  decide (0 < pdb.disruptionsAllowed) || pdb.expectedPods == 0

/-- A call of `GetPodDisruptionBudget`, for the cluster it was made for. -/
structure PdbRead where
  name : String
  ns : String
  answer : Except ApiError PodDisruptionBudget

/-- The object the call returns.  It is stored whether or not the read failed. -/
def PdbRead.stored (read : PdbRead) : PodDisruptionBudget :=
  match read.answer with
  | .ok pdb => { pdb with name := read.name, ns := read.ns }
  | .error _ => { name := read.name, ns := read.ns }

/-! ## Writing the status -/

/-- New resource versions, or the errors, of the two writes of
`updateCassandraStatus`. -/
structure WriteAnswer where
  update : Except ApiError Nat
  statusUpdate : Except ApiError Nat

structure StatusWrite where
  cc : CassandraCluster
  needUpdate : Bool
  effects : List Effect
  error : Option ApiError

def CassandraCluster.received (cc : CassandraCluster) :
    Except ApiError Nat → CassandraCluster
  | .ok version => { cc with resourceVersion := version }
  | .error _ => cc

def Except.succeeded {ε α : Type} : Except ε α → Bool
  | .ok _ => true
  | .error _ => false

def Except.failure {ε α : Type} : Except ε α → Option ε
  | .ok _ => none
  | .error error => some error

/-- `updateCassandraStatus`.  A failed `Update` is only logged; the error returned
is the one of the status update. -/
def updateCassandraStatus (needUpdate : Bool) (cc : CassandraCluster)
    (status : CassandraClusterStatus) (answer : WriteAnswer) : StatusWrite :=
  let lastApplied := cc.computeLastAppliedConfiguration
  if !needUpdate && cc.status == status && cc.annotation == .config lastApplied then
    { cc := cc, needUpdate := needUpdate, effects := [], error := none }
  else
    let cc := { cc with annotation := .config lastApplied }
    let updated := { cc.received answer.update with status := status }
    { cc := updated.received answer.statusUpdate
      needUpdate := false
      effects :=
        [.putCluster cc.resourceVersion answer.update.toOption,
          .updateCluster lastApplied (Except.succeeded answer.update),
          .putCluster updated.resourceVersion answer.statusUpdate.toOption,
          .updateClusterStatus status (Except.succeeded answer.statusUpdate)]
      error := Except.failure answer.statusUpdate }

/-- `updateCassandraStatus` on the object and the status of the pass. -/
def Pass.updateCassandraStatus (pass : Pass) (answer : WriteAnswer) : Pass :=
  let write := Casskop.updateCassandraStatus pass.needUpdate pass.cc pass.status answer
  { pass with
    cc := write.cc
    needUpdate := write.needUpdate
    effects := pass.effects ++ write.effects }

end Casskop
