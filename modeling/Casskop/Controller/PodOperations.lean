import Casskop.Controller.Actions

/-!
# Pod operations

`handlePodOperation` and what it calls.  While a rack is scaling down only the
decommission of its last pod is looked at; otherwise finished operations are
drained from the channel and waiting ones are started.
-/

namespace Casskop

def defaultDelayWaitForDecommission : Nat := 120

inductive Flow where
  | continueResyncLoop
  | breakResyncLoop
  | fault
  /-- A retry loop that never ends. -/
  | hang
  deriving DecidableEq, Repr

structure PodOperationResult where
  pass : Pass
  flow : Flow

def weAreScalingDown (rack : CassandraRackStatus) : Bool :=
  rack.cassandraLastAction.name == .scaleDown &&
    (rack.cassandraLastAction.status == .toDo ||
      rack.cassandraLastAction.status == .ongoing ||
      rack.cassandraLastAction.status == .continue)

/-! ## Decommission -/

structure DecommissionAnswers where
  podsList : Except ApiError (List Pod)
  pod : Except ApiError Pod
  operationMode : Except ApiError OperationMode
  pvc : Except ApiError Unit
  write : WriteAnswer

def setOperation (rack : CassandraRackStatus)
    (change : PodLastOperation → PodLastOperation) : CassandraRackStatus :=
  { rack with podLastOperation := change rack.podLastOperation }

def setActionStatus (rack : CassandraRackStatus) (status : ActionStatus) :
    CassandraRackStatus :=
  { rack with cassandraLastAction := { rack.cassandraLastAction with status := status } }

/-- `deletePodPVC`.  The pod was not found, so the object at hand carries nothing
but the name asked for. -/
def deletePodPVC (now : Nat) (pass : Pass) (dcRackName : String)
    (rack : CassandraRackStatus) (podName : String) (answers : DecommissionAnswers)
    (statefulsetIsReady : Bool) : PodOperationResult :=
  let finished := setOperation rack fun operation =>
    { operation with
      -- A StatefulSet that is not ready stands for decommissions still to come.
      status := if statefulsetIsReady then .done else .continue
      podsOK := some [podName]
      endTime := some now
      pods := some [] }
  match answers.pvc with
  | .ok () =>
    ⟨(pass.setRackStatus dcRackName finished).emit
        [.deletePVC (dataPVCName ++ "-" ++ podName)], .breakResyncLoop⟩
  | .error .notFound => ⟨pass.setRackStatus dcRackName finished, .breakResyncLoop⟩
  | .error _ => ⟨pass, .breakResyncLoop⟩

def startDecommission (pod : String) (rack : CassandraRackStatus) : CassandraRackStatus :=
  setOperation rack fun operation =>
    { operation with
      status := .ongoing, pods := some [pod], podsOK := some [], podsKO := some [] }

def bypassDecommission (pod : String) (rack : CassandraRackStatus) :
    CassandraRackStatus :=
  setActionStatus
    (setOperation rack fun operation =>
      { operation with
        status := .finalizing, pods := some [pod], podsOK := some [], podsKO := some [] })
    .continue

/-- `ensureDecommissionToDo` once the last pod is known to run. -/
def decommissionRunningPod (pass : Pass) (dcRackName : String)
    (rack : CassandraRackStatus) (lastPod : Pod)
    (mode : Except ApiError OperationMode) : PodOperationResult :=
  match mode with
  | .error _ => ⟨pass, .breakResyncLoop⟩
  | .ok mode =>
    if mode = .decommissioned ∨ mode = .unknown ∨ mode = .leaving then
      ⟨pass, .breakResyncLoop⟩
    else
      ⟨(pass.setRackStatus dcRackName (startDecommission lastPod.name rack)).emit
          [.labelPod lastPod.name
              [("operation-status", "Ongoing"), ("operation-name", "decommission")],
            .startDecommission dcRackName lastPod.name
              (pass.cc.spec.getNodesPerRacks dcRackName)],
        .breakResyncLoop⟩

def ensureDecommissionToDo (pass : Pass) (dcRackName : String)
    (rack : CassandraRackStatus) (answers : DecommissionAnswers) : PodOperationResult :=
  match answers.podsList with
  | .error _ => ⟨pass, .breakResyncLoop⟩
  | .ok pods =>
    match getLastOrFirstPodItem pods true with
    | none => ⟨pass, .breakResyncLoop⟩
    | some lastPod =>
      let running : PodOperationResult :=
        if lastPod.phase ≠ .running ∨ lastPod.deletionTimestamp then
          ⟨pass, .breakResyncLoop⟩
        else
          decommissionRunningPod pass dcRackName rack lastPod answers.operationMode
      match lastPod.phase, lastPod.conditions with
      -- Indexing the empty, but not nil, list of conditions panics.
      | .pending, some [] => ⟨pass, .fault⟩
      | .pending, some (condition :: _) =>
        if condition.reason = "Unschedulable" then
          ⟨(pass.setRackStatus dcRackName (bypassDecommission lastPod.name rack)).emit
              [.passDecommission dcRackName lastPod.name .unschedulable],
            .continueResyncLoop⟩
        else running
      | _, _ => running

/-- The `Ongoing` case of `ensureDecommission`. -/
def followDecommission (now : Nat) (pass : Pass) (dcRackName : String)
    (rack : CassandraRackStatus) (podName : String) (answers : DecommissionAnswers) :
    PodOperationResult :=
  match answers.pod with
  | .error _ => ⟨pass, .breakResyncLoop⟩
  | .ok pod =>
    match answers.operationMode with
    | .error _ => ⟨pass, .breakResyncLoop⟩
    | .ok mode =>
      if mode = .normal then
        let recent := pod.operationStart.any fun start =>
          decide (now < start + defaultDelayWaitForDecommission)
        if recent then ⟨pass, .breakResyncLoop⟩
        else
          ⟨pass.setRackStatus dcRackName
              (setOperation rack fun operation => { operation with status := .toDo }),
            .breakResyncLoop⟩
      else if mode = .decommissioned ∨ mode = .unknown then
        let left := pass.setRackStatus dcRackName
          (setOperation rack fun operation => { operation with status := .finalizing })
        let logged := left.emit [.passDecommission dcRackName podName (.leftRing mode)]
        -- The status is written before the StatefulSet is.
        ⟨logged.updateCassandraStatus answers.write, .continueResyncLoop⟩
      else ⟨pass, .breakResyncLoop⟩

def ensureDecommission (now : Nat) (pass : Pass) (dcRackName : String)
    (rack : CassandraRackStatus) (answers : DecommissionAnswers)
    (statefulsetIsReady : Bool) : PodOperationResult :=
  let operation := rack.podLastOperation
  if operation.name ≠ .decommission then
    ⟨pass.emit [.passDecommission dcRackName "" .otherOperation], .continueResyncLoop⟩
  else
    match operation.status with
    | .toDo | .continue => ensureDecommissionToDo pass dcRackName rack answers
    | .finalizing =>
      match operation.pods with
      | some (podName :: _) =>
        match answers.pod with
        | .error .notFound =>
          deletePodPVC now pass dcRackName rack podName answers statefulsetIsReady
        | _ => ⟨pass, .breakResyncLoop⟩
      | _ => ⟨pass, .fault⟩
    | .ongoing =>
      match operation.pods with
      | none => ⟨pass, .breakResyncLoop⟩
      | some [] => ⟨pass, .fault⟩
      | some (podName :: _) =>
        if podName = "" then ⟨pass, .breakResyncLoop⟩
        else followDecommission now pass dcRackName rack podName answers
    | .done =>
      match operation.podsOK with
      | none => ⟨pass, .breakResyncLoop⟩
      | some [] => ⟨pass, .fault⟩
      | some (podName :: _) =>
        if podName = "" then ⟨pass, .breakResyncLoop⟩
        else
          ⟨pass.setRackStatus dcRackName (setActionStatus rack .continue),
            .breakResyncLoop⟩
    | _ =>
      ⟨pass.emit [.passDecommission dcRackName "" .unknownStatus], .continueResyncLoop⟩

/-! ## Finished operations -/

/-- One round of the retry loop of `finalizeOperation`. -/
structure FinalizeAttempt where
  labelled : Bool
  write : WriteAnswer
  /-- The object read again after a failed write. -/
  refreshed : Option CassandraCluster

def removeString (items : Option (List String)) (item : String) : Option (List String) :=
  items.map fun items => items.erase item

def appendString (items : Option (List String)) (item : String) : Option (List String) :=
  some (items.getD [] ++ [item])

def updatePodLastOperation (op : FinalizedOp) (operation : PodLastOperation) :
    PodLastOperation :=
  let operation :=
    if op.failed then { operation with podsKO := appendString operation.podsKO op.pod }
    else { operation with podsOK := appendString operation.podsOK op.pod }
  { operation with pods := removeString operation.pods op.pod }

structure FinalizeState where
  needUpdate : Bool
  effects : List Effect
  finished : Bool

/-- The retry loop of `finalizeOperation`; `refreshed` is `ccRefreshed`. -/
def finalizeLoop (status : CassandraClusterStatus) (label : Effect) :
    List FinalizeAttempt → CassandraCluster → Bool → FinalizeState
  | [], _, needUpdate => { needUpdate := needUpdate, effects := [], finished := false }
  | attempt :: attempts, refreshed, needUpdate =>
    if attempt.labelled = false then
      finalizeLoop status label attempts refreshed needUpdate
    else
      let write := updateCassandraStatus needUpdate refreshed status attempt.write
      match write.error with
      | none =>
        { needUpdate := write.needUpdate
          effects := label :: write.effects
          finished := true }
      | some _ =>
        let later := finalizeLoop status label attempts
          (attempt.refreshed.getD write.cc) write.needUpdate
        { later with effects := label :: (write.effects ++ later.effects) }

/-- `finalizeOperation`, called with the status of the object itself. -/
def finalizeOperation (pass : Pass) (op : FinalizedOp)
    (attempts : List FinalizeAttempt) : PodOperationResult :=
  match pass.cc.status.cassandraRackStatus.lookup op.dcRackName with
  | none => ⟨pass.emit [.finalizeOperation op none], .fault⟩
  | some rack =>
    let recorded := setOperation rack (updatePodLastOperation op)
    let status :=
      { pass.cc.status with
        cassandraRackStatus :=
          pass.cc.status.cassandraRackStatus.insert op.dcRackName recorded }
    let label : Effect := .labelPod op.pod
      [("operation-status", if op.failed then "Error" else "Done")]
    let final := finalizeLoop status label attempts pass.cc pass.needUpdate
    ⟨{ pass with
        cc := { pass.cc with status := status }
        needUpdate := final.needUpdate
        effects := pass.effects ++
          .finalizeOperation op (some recorded.podLastOperation) :: final.effects },
      if final.finished then .continueResyncLoop else .hang⟩

/-- Number of results `finalizeOperations` takes: the bound of its loop is the
shrinking length of the channel. -/
def drainedCount (waiting : Nat) : Nat := (waiting + 1) / 2

def finalizeAll : Pass → List (FinalizedOp × List FinalizeAttempt) → PodOperationResult
  | pass, [] => ⟨pass, .continueResyncLoop⟩
  | pass, (op, attempts) :: rest =>
    let result := finalizeOperation pass op attempts
    match result.flow with
    | .continueResyncLoop => finalizeAll result.pass rest
    | _ => result

def finalizeOperations (pass : Pass)
    (channel : List (FinalizedOp × List FinalizeAttempt)) : PodOperationResult :=
  finalizeAll pass (channel.take (drainedCount channel.length))

/-! ## Waiting operations -/

structure OperationAnswers where
  /-- The key `randomPodOperationKey` picks. -/
  operation : OperationName
  channel : List (FinalizedOp × List FinalizeAttempt)
  toDoPods : Except ApiError (List Pod)
  pod : String → Except ApiError Pod
  write : WriteAnswer
  /-- Answers to the label update and to the writes of `startOperation`. -/
  start : String → Bool × WriteAnswer

def runningPods (pods : List Pod) : List Pod :=
  pods.filter fun pod => pod.phase == .running && !pod.deletionTimestamp

def initOperation (now : Nat) (pass : Pass) (dcRackName : String)
    (rack : CassandraRackStatus) (answers : OperationAnswers) : Pass × List Pod :=
  let operation := rack.podLastOperation
  let pods := answers.toDoPods.toOption.getD []
  if pods.isEmpty then
    if operation.name = answers.operation ∧ operation.status = .ongoing ∧
        (operation.pods.getD []).isEmpty then
      ((pass.setRackStatus dcRackName
          (setOperation rack fun operation =>
            { operation with status := .done, endTime := some now })).updateCassandraStatus
          answers.write, [])
    else (pass, [])
  else if operation.status ≠ .ongoing then
    ((pass.setRackStatus dcRackName
        (setOperation rack fun operation =>
          { operation with
            name := answers.operation
            status := .ongoing
            startTime := some now
            endTime := none
            podsOK := some []
            podsKO := some []
            pods := some [] })).updateCassandraStatus answers.write,
      runningPods pods)
  else (pass, runningPods pods)

/-- `getPodsToWorkOn` with `podsSlice`; the flag is `checkOnly`. -/
def getPodsToWorkOn (platform : Platform) (now : Nat) (pass : Pass) (dcRackName : String)
    (rack : CassandraRackStatus) (answers : OperationAnswers) : Pass × List Pod × Bool :=
  let operation := rack.podLastOperation
  if platform.podName = "" then (pass, [], false)
  else if operation.name = answers.operation ∧ operation.status = .ongoing ∧
      operation.operatorName ≠ "" ∧ operation.operatorName ≠ platform.podName then
    let pods := runningPods ((operation.pods.getD []).filterMap fun name =>
      (answers.pod name).toOption)
    let pass :=
      if pods.isEmpty then
        pass.setRackStatus dcRackName (setOperation rack fun operation =>
          { operation with status := .done, endTime := some now })
      else pass
    (pass.updateCassandraStatus answers.write, pods, true)
  else
    let (pass, pods) := initOperation now pass dcRackName rack answers
    (pass, pods, false)

def startOperation (platform : Platform) (pass : Pass) (dcRackName : String)
    (operation : OperationName) (pod : Pod) (answer : Bool × WriteAnswer) : Pass :=
  match pass.rackStatus dcRackName with
  | none => pass
  | some rack =>
    let named := setOperation rack fun operation =>
      { operation with operatorName := platform.podName }
    if answer.1 = false then pass.setRackStatus dcRackName named
    else
      let started := setOperation named fun operation =>
        { operation with
          pods := appendString operation.pods pod.name
          podsOK := removeString operation.podsOK pod.name
          podsKO := removeString operation.podsKO pod.name }
      let labelled := (pass.setRackStatus dcRackName started).emit
        [.labelPod pod.name [("operation-status", "Ongoing"), ("operation-end", "")]]
      (labelled.updateCassandraStatus answer.2).emit
        [.startOperation dcRackName pod.name operation]

def ensureOperation (platform : Platform) (now : Nat) (pass : Pass) (dcRackName : String)
    (rack : CassandraRackStatus) (answers : OperationAnswers) : Pass :=
  let (pass, pods, checkOnly) :=
    getPodsToWorkOn platform now pass dcRackName rack answers
  pods.foldl
    (fun pass pod =>
      if checkOnly then
        pass.emit [.monitorOperation dcRackName pod.name answers.operation]
      else
        startOperation platform pass dcRackName answers.operation pod
          (answers.start pod.name))
    pass

/-! ## All operations of a rack -/

structure HandleAnswers where
  decommission : DecommissionAnswers
  joining : JoiningAnswers
  operations : OperationAnswers

def handlePodOperation (platform : Platform) (now : Nat) (pass : Pass)
    (dcRackName : String) (rack : CassandraRackStatus) (answers : HandleAnswers)
    (statefulsetIsReady : Bool) : PodOperationResult :=
  if weAreScalingDown rack then
    ensureDecommission now pass dcRackName rack answers.decommission statefulsetIsReady
  else
    match hasJoiningNodes pass.cc.spec answers.joining with
    | .error _ => ⟨pass, .breakResyncLoop⟩
    | .ok true => ⟨pass, .breakResyncLoop⟩
    | .ok false =>
      if pass.status.lastClusterActionStatus = .done then
        let result := finalizeOperations pass answers.operations.channel
        match result.flow with
        | .continueResyncLoop =>
          ⟨ensureOperation platform now result.pass dcRackName rack answers.operations,
            .continueResyncLoop⟩
        | _ => result
      else ⟨pass, .continueResyncLoop⟩

end Casskop
