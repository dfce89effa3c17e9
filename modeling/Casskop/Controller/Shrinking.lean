import Casskop.Controller.DecommissionEffects
import Casskop.Controller.DecommissionRecord

/-!
# Shrinking a StatefulSet

The generated StatefulSet carries the wanted number of nodes whatever action the rack is
in.  That a node is decommissioned before the StatefulSet is shrunk rests on the detectors:
they have to find the scale down, and find it before anything else.
-/

namespace Casskop

/-! ## Finding a scale down -/

/-- No action of the rack keeps a scale down from being found. -/
structure RackAnswers.Unoccupied (answers : RackAnswers) (spec : CassandraClusterSpec)
    (rack : CassandraRackStatus) : Prop where
  status : rack.cassandraLastAction.status ∉
    [ActionStatus.toDo, .ongoing, .continue, .finalizing]
  started : needToWaitDelayBeforeCheck answers.now rack = false
  unlock : spec.unlockNextOperation = true →
    hasUnschedulablePod answers.next.unschedulable = true
  goroutines : answers.leftover.beforeDetection = none ∧ answers.leftover.beforeWrite = none

/-- Fewer nodes are wanted than the StatefulSet has, and no other edit or action is in the
way. -/
structure ScalesAlone (platform : Platform) (spec : CassandraClusterSpec)
    (names : CompleteRackName) (answers : RackAnswers) (rack : CassandraRackStatus)
    (sts : StatefulSet) : Prop where
  read : answers.statefulSet = .ok sts
  fewer : spec.getNodesPerRacks names.dcRackName < sts.spec.replicas
  configMap : configMapHasChanged spec sts = false
  image : dockerImageHasChanged spec sts = false
  capacity : shouldStorageUpsizeBeStarted platform spec names.dcName sts = false
  initialized : rack.phase ≠ .initializing
  following : weAreScalingDown rack = true → rack.cassandraLastAction.status ≠ .toDo →
    spec.getNodesPerRacks names.dcRackName ≠ sts.status.replicas
  unoccupied : weAreScalingDown rack = false → answers.Unoccupied spec rack

theorem CassandraClusterSpec.getDataCapacityFromDCName_settled (spec : CassandraClusterSpec)
    (dcName : String) :
    spec.settled.getDataCapacityFromDCName dcName = spec.getDataCapacityFromDCName dcName := by
  unfold getDataCapacityFromDCName
  rw [find?_settled]
  cases spec.topology.dc.find? fun dc => dc.name == dcName <;> rfl

variable {names : CompleteRackName} {rack : CassandraRackStatus} {sts : StatefulSet}
  {dcRackName : String}

section Detectors

variable {platform : Platform} {spec spec' : CassandraClusterSpec} {answers : RackAnswers}
  {rack' : CassandraRackStatus}

theorem ScalesAlone.settled (alone : ScalesAlone platform spec names answers rack sts)
    (settled : spec'.settled = spec.settled)
    (unlock : spec'.unlockNextOperation = true → spec.unlockNextOperation = true) :
    ScalesAlone platform spec' names answers rack sts := by
  have nodes := CassandraClusterSpec.getNodesPerRacks_of_settled settled
  have configMap : spec'.configMapName = spec.configMapName := by
    have kept := congrArg CassandraClusterSpec.configMapName settled
    exact kept
  have image : spec'.cassandraImage = spec.cassandraImage := by
    have kept := congrArg CassandraClusterSpec.cassandraImage settled
    exact kept
  have capacity : spec'.getDataCapacityFromDCName = spec.getDataCapacityFromDCName := by
    funext dcName
    rw [← CassandraClusterSpec.getDataCapacityFromDCName_settled, settled,
      CassandraClusterSpec.getDataCapacityFromDCName_settled]
  refine ⟨alone.read, ?_, ?_, ?_, ?_, alone.initialized, ?_, fun idle => ?_⟩
  · rw [nodes]
    exact alone.fewer
  · rw [← alone.configMap]
    simp only [configMapHasChanged, configMap]
  · rw [← alone.image]
    simp only [dockerImageHasChanged, image]
  · rw [← alone.capacity]
    simp only [shouldStorageUpsizeBeStarted, capacity]
  · rw [nodes]
    exact alone.following
  · obtain ⟨status, started, unscheduled, goroutines⟩ := alone.unoccupied idle
    exact ⟨status, started, fun unlocked => unscheduled (unlock unlocked), goroutines⟩

theorem ScalesAlone.of_action (alone : ScalesAlone platform spec names answers rack sts)
    (action : rack'.cassandraLastAction = rack.cassandraLastAction)
    (initialized : rack'.phase ≠ .initializing) :
    ScalesAlone platform spec names answers rack' sts := by
  have scaling : weAreScalingDown rack' = weAreScalingDown rack := by
    simp only [weAreScalingDown, action]
  refine ⟨alone.read, alone.fewer, alone.configMap, alone.image, alone.capacity, initialized,
    ?_, fun idle => ?_⟩
  · rw [scaling, action]
    exact alone.following
  · obtain ⟨status, started, unscheduled, goroutines⟩ :=
      alone.unoccupied (scaling.symm.trans idle)
    refine ⟨?_, ?_, unscheduled, goroutines⟩
    · rw [action]
      exact status
    · rw [← started]
      simp only [needToWaitDelayBeforeCheck, action]

theorem phaseFromReadiness_action (sts : StatefulSet) (rack : CassandraRackStatus) :
    (phaseFromReadiness sts rack).cassandraLastAction = rack.cassandraLastAction := by
  unfold phaseFromReadiness
  split
  · rfl
  · split <;> rfl

theorem phaseFromReadiness_initialized (sts : StatefulSet)
    (initialized : rack.phase ≠ .initializing) :
    (phaseFromReadiness sts rack).phase ≠ .initializing := by
  unfold phaseFromReadiness
  split
  · simp
  · split
    · simp
    · exact initialized

/-- The phase of a rack that is initialized follows from the StatefulSet alone. -/
theorem updateCassandraRackStatusPhase_initialized {now : Nat} {pods : Except ApiError (List Pod)}
    {phased : CassandraRackStatus} (initialized : rack.phase ≠ .initializing)
    (updated : updateCassandraRackStatusPhase now spec dcRackName sts rack pods = .updated phased) :
    phased = phaseFromReadiness sts rack := by
  unfold updateCassandraRackStatusPhase at updated
  rw [if_neg initialized] at updated
  cases updated
  rfl

theorem ScalesAlone.notEnded {now : Nat} {cc : CassandraCluster} {ended : EndAnswers}
    (alone : ScalesAlone platform cc.spec names answers rack sts) :
    updateStatusIfActionEnded now cc names.dcRackName sts rack ended = .notEnded := by
  unfold updateStatusIfActionEnded
  dsimp only
  split
  · rename_i running
    cases scaling : weAreScalingDown rack with
    | false =>
      have free := (alone.unoccupied scaling).status
      rcases running with ongoing | continues
      · simp [ongoing] at free
      · simp [continues] at free
    | true =>
      have waits : rack.cassandraLastAction.status ≠ .toDo := by
        rcases running with ongoing | continues
        · simp [ongoing]
        · simp [continues]
      rw [((weAreScalingDown_eq _).mp scaling).1]
      dsimp only
      rw [if_neg (alone.following scaling waits)]
  · rfl

section Next

variable {pass : Pass} {dcAt rackAt : Nat}

theorem ScalesAlone.detected (now : Nat)
    (alone : ScalesAlone platform pass.cc.spec (pass.cc.spec.completeRackName dcAt rackAt) answers
      rack sts) :
    (detectNewAction platform now pass dcAt rackAt sts rack).rack =
      setAction (setDecommissionStatus now rack) .scaleDown .toDo := by
  have fewer := alone.fewer
  have scaling : updateStatusIfScaling now pass.cc.spec
      (pass.cc.spec.completeRackName dcAt rackAt).dcRackName sts rack =
        some (setAction (setDecommissionStatus now rack) .scaleDown .toDo) := by
    unfold updateStatusIfScaling
    rw [if_neg (by omega), if_neg (by omega)]
  unfold detectNewAction
  simp [updateStatusIfconfigMapHasChanged, updateStatusIfDockerImageHasChanged,
    updateStatusIfStorageUpsize, alone.configMap, alone.image, alone.capacity, scaling]

theorem ScalesAlone.next
    (alone : ScalesAlone platform pass.cc.spec (pass.cc.spec.completeRackName dcAt rackAt) answers
      rack sts)
    (gate : weAreScalingDown rack = false → pass.GateOpen) :
    let next := getNextCassandraClusterStatus platform answers.now pass dcAt rackAt sts rack
      answers.next
    weAreScalingDown next.rack = true ∧ next.rack.phase ≠ .initializing := by
  unfold getNextCassandraClusterStatus
  dsimp only
  split
  · rename_i delayed
    refine ⟨?_, alone.initialized⟩
    cases scaling : weAreScalingDown rack with
    | true => rfl
    | false => simp [(alone.unoccupied scaling).started] at delayed
  rw [alone.notEnded]
  dsimp only
  have initialized : leaveInitial rack = rack := if_neg alone.initialized
  rw [if_neg fun both => alone.initialized both.1, initialized]
  split
  · rw [alone.detected]
    exact ⟨rfl, by simp [setAction, setDecommissionStatus]⟩
  · rename_i unchecked
    cases scaling : weAreScalingDown rack with
    | true =>
      have name := ((weAreScalingDown_eq _).mp scaling).1
      have same : startUpdateResources answers.now rack = rack :=
        if_neg fun both => by simp [name] at both
      dsimp only
      rw [same]
      exact ⟨scaling, alone.initialized⟩
    | false =>
      obtain ⟨status, _, unscheduled, _⟩ := alone.unoccupied scaling
      refine absurd ?_ unchecked
      simp only [List.mem_cons, List.not_mem_nil, or_false, not_or] at status
      rcases gate scaling with free | unlocked
      · simp [checksForNewAction, free, status]
      · simp [checksForNewAction, unlocked, unscheduled unlocked]

end Next

end Detectors

/-! ## The record of a scale down -/

/-- The record of a rack that is scaling down is the one of a decommission, of pods that
were `listed`. -/
structure FollowedRecord (listed : String → String → Prop) (name : String)
    (operation : PodLastOperation) : Prop where
  named : operation.name = .decommission
  known : operation.status ∈ [ActionStatus.toDo, .continue, .finalizing, .ongoing, .done]
  listed : ∀ pod ∈ operation.running, listed name pod

def Followed (listed : String → String → Prop) (name : String) (rack : CassandraRackStatus) :
    Prop :=
  weAreScalingDown rack = true → FollowedRecord listed name rack.podLastOperation

section Records

variable {listed : String → String → Prop} {name : String} {rack rack' : CassandraRackStatus}

theorem Followed.recordKept (followed : Followed listed name rack)
    (kept : RecordKept rack rack') : Followed listed name rack' := by
  intro scaling
  rw [kept.record]
  exact followed (kept.scaling scaling)

theorem followed_law (listed : String → String → Prop) : RackLaw (Followed listed) where
  initial name scaling := by cases scaling
  kept name rack rack' kept followed := followed.recordKept kept
  asked name now old rack record _ := by
    rw [record]
    exact ⟨rfl, by simp [setDecommissionStatus],
      by simp [setDecommissionStatus, PodLastOperation.running]⟩
  operated name rack operation idle _ scaling := by
    change weAreScalingDown rack = true at scaling
    rw [idle] at scaling
    cases scaling
  finalized name op rack followed scaling := by
    obtain ⟨named, known, pods⟩ := followed scaling
    have same := updatePodLastOperation_kept op rack.podLastOperation
    refine ⟨same.1.trans named, ?_, fun pod member => ?_⟩
    · change (updatePodLastOperation op rack.podLastOperation).status ∈ _
      rw [same.2]
      exact known
    · change pod ∈ (updatePodLastOperation op rack.podLastOperation).running at member
      rw [running_finalized] at member
      exact pods pod (List.mem_of_mem_erase member)
  serialized name rack followed scaling := by
    obtain ⟨named, known, pods⟩ := followed scaling
    have same := SameRecord.serialized rack
    refine ⟨same.name.trans named, ?_, ?_⟩
    · rw [same.status]
      exact known
    · rw [same.running]
      exact pods

/-- The last pod among those listed is what a decommission is started on. -/
def DecommissionAnswers.Lists (answers : DecommissionAnswers) (pod : String) : Prop :=
  ∃ pods lastPod, answers.podsList = .ok pods ∧
    getLastOrFirstPodItem pods true = some lastPod ∧ lastPod.name = pod

theorem DecommissionChange.followed {answers : RackAnswers}
    (change : DecommissionChange answers rack rack')
    (lists : ∀ pod, answers.handle.decommission.Lists pod → listed name pod)
    (followed : Followed listed name rack) : Followed listed name rack' := by
  cases change with
  | start pods lastPod scaling list last =>
    intro _
    refine ⟨(followed scaling).named, by simp [startDecommission, setOperation], ?_⟩
    intro pod member
    exact lists pod ⟨pods, lastPod, list, last, (List.mem_singleton.mp member).symm⟩
  | bypass pods lastPod scaling list last =>
    intro _
    refine ⟨(followed scaling).named,
      by simp [bypassDecommission, setActionStatus, setOperation], ?_⟩
    intro pod member
    exact lists pod ⟨pods, lastPod, list, last, (List.mem_singleton.mp member).symm⟩
  | retry scaling ongoing =>
    exact fun _ => ⟨(followed scaling).named, by simp [setOperation], (followed scaling).listed⟩
  | left scaling ongoing =>
    exact fun _ => ⟨(followed scaling).named, by simp [setOperation], (followed scaling).listed⟩
  | finish podName ready scaling finalizing =>
    refine fun _ => ⟨(followed scaling).named, ?_,
      by simp [setOperation, PodLastOperation.running]⟩
    cases ready <;> simp [setOperation]
  | more scaling done => exact fun _ => followed scaling

end Records

/-! ## One iteration -/

/-- `ensureDecommission` let the pass go on, because the last pod of the rack has left the
ring or cannot be scheduled. -/
inductive Cleared (listed : String → Prop) (answers : DecommissionAnswers) (dcRackName : String)
    (effects : List Effect) : Prop where
  | left (pod : String) (mode : OperationMode) (gone : mode = .decommissioned ∨ mode = .unknown)
      (observed : answers.operationMode = .ok mode) (last : listed pod)
      (passed : .passDecommission dcRackName pod (.leftRing mode) ∈ effects)
  | unschedulable (pods : List Pod) (lastPod : Pod) (list : answers.podsList = .ok pods)
      (last : getLastOrFirstPodItem pods true = some lastPod) (pending : lastPod.phase = .pending)
      (reason : ∃ condition conditions, lastPod.conditions = some (condition :: conditions) ∧
        condition.reason = "Unschedulable")
      (passed : .passDecommission dcRackName lastPod.name .unschedulable ∈ effects)

theorem Cleared.mono {listed : String → Prop} {answers : DecommissionAnswers}
    {effects effects' : List Effect} (cleared : Cleared listed answers dcRackName effects)
    (within : ∀ effect ∈ effects, effect ∈ effects') :
    Cleared listed answers dcRackName effects' := by
  cases cleared with
  | left pod mode gone observed last passed =>
    exact .left pod mode gone observed last (within _ passed)
  | unschedulable pods lastPod list last pending reason passed =>
    exact .unschedulable pods lastPod list last pending reason (within _ passed)

section Iteration

variable {listed : String → String → Prop} {platform : Platform} {answers : RackAnswers}
  {pass : Pass}

theorem applyRack_keepsEffects (names : CompleteRackName) {effect : Effect}
    (member : effect ∈ pass.effects) :
    effect ∈ (applyRack platform answers names pass).pass.effects := by
  obtain ⟨written, handled⟩ := ((@applyRack_outcome answers platform names pass).within
    (@Part.updating_within pass.cc.spec names.dcRackName answers)).handled Part.ordinary_within
  obtain ⟨more, effects, _⟩ := SpawnsAt.iteration handled.iteration id
  rw [effects]
  exact List.mem_append_left _ member

/-- When the record is that of the scale down, a write comes after the pod was let go. -/
theorem DecommissionStep.cleared {ready : Bool} {result : PodOperationResult}
    (step : DecommissionStep answers.now pass names.dcRackName rack answers.handle.decommission
      ready result) (found : pass.rackStatus names.dcRackName = some rack)
    (scaling : weAreScalingDown rack = true) (followed : Followed listed names.dcRackName rack)
    (wrote : (afterOperation platform answers names result).pass.writes ≠ pass.writes) :
    Cleared (listed names.dcRackName) answers.handle.decommission names.dcRackName
      (afterOperation platform answers names result).pass.effects := by
  have goesOn : result.flow = .continueResyncLoop := by
    by_contra stops
    have quiet := (step.moves found scaling).frame.writes
    rw [List.append_nil] at quiet
    rw [afterOperation_pass stops] at wrote
    exact wrote quiet
  rw [afterOperation_continue goesOn]
  cases step with
  | otherOperation other => exact absurd (followed scaling).named other
  | unknownStatus unknown => exact absurd (followed scaling).known unknown
  | bypass pods lastPod named asked list last pending reason =>
    exact .unschedulable pods lastPod list last pending reason
      (applyRack_keepsEffects names (by simp))
  | left podName others mode ongoing pods gone observed =>
    refine .left podName mode gone observed ((followed scaling).listed podName ?_)
      (applyRack_keepsEffects names (List.mem_append_left _ (by simp)))
    simp [PodLastOperation.running, pods]
  | wait | fault | start | retry | finish | more => cases goesOn

theorem RackPath.cleared {dcAt rackAt : Nat} {step : RackStep}
    (path : RackPath platform answers dcAt rackAt names rack pass step)
    (here : pass.cc.spec.completeRackName dcAt rackAt = names)
    (found : pass.rackStatus names.dcRackName = some rack)
    (alone : ScalesAlone platform pass.cc.spec names answers rack sts)
    (gate : weAreScalingDown rack = false → pass.GateOpen)
    (followed : Followed listed names.dcRackName rack) (wrote : step.pass.writes ≠ pass.writes) :
    Cleared (listed names.dcRackName) answers.handle.decommission names.dcRackName
      step.pass.effects := by
  cases path with
  | unread failed => exact absurd alone.read (failed sts)
  | phaseFault => exact absurd rfl wrote
  | observed sts' phased next read phase action step path =>
    obtain rfl : sts' = sts := Except.ok.inj (read.symm.trans alone.read)
    obtain ⟨moves, changes⟩ := observed_moves platform dcAt rackAt here read found phase action
    obtain rfl := updateCassandraRackStatusPhase_initialized alone.initialized phase
    have quiet := moves.frame.writes
    rw [List.append_nil] at quiet
    -- The gate is still what it was when the iteration began.
    have open' : weAreScalingDown (phaseFromReadiness sts' rack) = false →
        (pass.phased answers names.dcRackName (phaseFromReadiness sts' rack)).GateOpen := by
      intro idle
      rw [phaseFromReadiness_scaling] at idle
      have kept := (alone.unoccupied idle).goroutines.1
      have same : (pass.phased answers names.dcRackName
          (phaseFromReadiness sts' rack)).storedPdb = pass.storedPdb := by
        simp [Pass.phased, Pass.receivePdb, Pass.setRackStatus, kept]
      rcases gate idle with free | unlocked
      · exact Or.inl (same ▸ free)
      · exact Or.inr unlocked
    have found' := @ScalesAlone.next (phaseFromReadiness sts' rack) sts' platform answers
      (pass.phased answers names.dcRackName (phaseFromReadiness sts' rack)) dcAt rackAt
      (here ▸ alone.of_action (phaseFromReadiness_action sts' rack)
        (phaseFromReadiness_initialized sts' alone.initialized)) open'
    rw [action] at found'
    obtain ⟨scaling, initialized⟩ := found'
    rcases path with ⟨_, rfl⟩ | path
    · exact absurd quiet wrote
    · cases path with
      | initializing phase => exact absurd phase initialized
      | operation result idle => simp [scaling] at idle
      | decommission result _ step =>
        refine step.cleared (Pass.rackStatus_applyNext _ _ _) scaling
          ((followed_law listed).observedAll changes followed) ?_
        rw [quiet]
        exact wrote

/-- The StatefulSet that is read before the write, if it is to be made smaller. -/
def RackAnswers.shrunk (answers : RackAnswers) (nodesPerRacks : Int) : Option StatefulSet :=
  match answers.ensure.stored with
  | .error _ => none
  | .ok stored =>
    if stepReplicas stored.spec.replicas nodesPerRacks < stored.spec.replicas then some stored
    else none

theorem Move.storedPdb {part : Part} {before after : Pass}
    (move : Move part dcRackName answers before after)
    (none : answers.leftover.beforeDetection = none ∧ answers.leftover.beforeWrite = none) :
    after.storedPdb = before.storedPdb := by
  cases move with
  | init | rack | emit | statusWrite => rfl
  | finalize op attempts known records =>
    unfold finalizeOperation
    split <;> rfl
  | pdb known =>
    rw [none.1, none.2] at known
    rcases known with known | known <;> cases known
  | memory status cluster object settled unlock kept => exact kept.1

/-- Without goroutines of earlier passes the gate does not open in between. -/
theorem Moves.gateOpen {part : Part} {before after : Pass}
    (moves : Moves part dcRackName answers before after)
    (none : answers.leftover.beforeDetection = none ∧ answers.leftover.beforeWrite = none)
    (gate : after.GateOpen) : before.GateOpen := by
  induction moves with
  | refl => exact gate
  | tail _ move induction =>
    refine induction (gate.imp (fun free => ?_) move.frame.unlock)
    rw [← move.storedPdb none]
    exact free

theorem IterationCase.cleared {position : Nat × Nat} {step : RackStep}
    (iteration : IterationCase platform answers position.1 position.2 pass step)
    (alone : ∀ stored ∈ answers.shrunk
      (pass.cc.spec.getNodesPerRacks (pass.cc.spec.rackNameAt position)),
      ∀ rack ∈ pass.rackStatus (pass.cc.spec.rackNameAt position),
        ScalesAlone platform pass.cc.spec (pass.cc.spec.completeRackName position.1 position.2)
          answers rack stored)
    (followed : ∀ rack ∈ pass.rackStatus (pass.cc.spec.rackNameAt position),
      Followed listed (pass.cc.spec.rackNameAt position) rack)
    {stored : StatefulSet} {succeeded : Bool}
    (member : .updateStatefulSet dcRackName stored sts succeeded ∈ step.pass.effects)
    (fewer : sts.spec.replicas < stored.spec.replicas) :
    .updateStatefulSet dcRackName stored sts succeeded ∈ pass.effects ∨
      dcRackName = pass.cc.spec.rackNameAt position ∧
        Cleared (listed dcRackName) answers.handle.decommission dcRackName step.pass.effects := by
  cases iteration with
  | nameless empty => exact Or.inl member
  | added absent => exact Or.inl member
  | deleting deletes =>
    rcases List.mem_append.mp member with old | new
    · exact Or.inl old
    · obtain ⟨_, impossible⟩ := deletePVCs_quiet answers _ new
      cases impossible
  | handled rack written step found alive handled path =>
    have writes := handled.iteration.frame.writes
    have issued : .updateStatefulSet dcRackName stored sts succeeded ∈ step.pass.writes :=
      List.mem_filter.mpr ⟨member, rfl⟩
    rw [writes] at issued
    rcases List.mem_append.mp issued with old | new
    · exact Or.inl (List.mem_filter.mp old).1
    obtain ⟨middle, first, reasons, _⟩ := handled.iteration.split
    obtain ⟨gate, read, replicas, rfl⟩ : middle.GateOpen ∧ answers.ensure.stored = .ok stored ∧
        sts.spec.replicas = stepReplicas stored.spec.replicas
          (middle.cc.spec.getNodesPerRacks (pass.cc.spec.rackNameAt position)) ∧
        dcRackName = pass.cc.spec.rackNameAt position := by
      cases reasons _ new with
      | update stored sts gate read replicas => exact ⟨gate, read, replicas, rfl⟩
    rw [CassandraClusterSpec.getNodesPerRacks_of_settled first.frame.spec] at replicas
    have isAlone := alone stored (by
      unfold RackAnswers.shrunk
      rw [read]
      dsimp only
      rw [if_pos (replicas ▸ fewer)]
      rfl) rack found
    refine Or.inr ⟨rfl, path.cleared rfl found isAlone
      (fun idle => first.gateOpen (isAlone.unoccupied idle).goroutines gate)
      (followed rack found) fun same => ?_⟩
    have none : written = [] := by simpa using writes.symm.trans same
    rw [none] at new
    cases new

end Iteration

/-! ## The pass -/

/-- Every StatefulSet update with fewer replicas comes after the last pod was let go. -/
def AllCleared (listed : String → String → Prop) (answers : Nat × Nat → RackAnswers)
    (spec : CassandraClusterSpec) (effects : List Effect) : Prop :=
  ∀ dcRackName stored sts succeeded,
    .updateStatefulSet dcRackName stored sts succeeded ∈ effects →
    sts.spec.replicas < stored.spec.replicas →
    ∃ position ∈ spec.rackPositions, spec.rackNameAt position = dcRackName ∧
      Cleared (listed dcRackName) (answers position).handle.decommission dcRackName effects

/-- Where a StatefulSet is to be made smaller, the resources are what they were and the
scale down is alone. -/
def World.ShrinksAlone (world : World) (platform : Platform) (answers : ReconcileAnswers) :
    Prop :=
  let spec := world.cluster.spec.checkDefaults
  (spec.rackPositions.map spec.rackNameAt).Nodup ∧
    ∀ position ∈ spec.rackPositions,
      ∀ stored ∈ (answers.racks position).shrunk
        (spec.getNodesPerRacks (spec.rackNameAt position)),
        ¬ world.cluster.defaulted.NewResources ∧
          ∀ rack ∈ world.rackStatus (spec.rackNameAt position),
            ScalesAlone platform spec (spec.completeRackName position.1 position.2)
              (answers.racks position) rack stored

section Pass

variable {listed : String → String → Prop} {platform : Platform}

theorem reconcileRacks_cleared {answers : Nat × Nat → RackAnswers} {start : Pass}
    (distinct : (start.cc.spec.rackPositions.map start.cc.spec.rackNameAt).Nodup)
    (alone : ∀ position ∈ start.cc.spec.rackPositions,
      ∀ stored ∈ (answers position).shrunk
        (start.cc.spec.getNodesPerRacks (start.cc.spec.rackNameAt position)),
        ∀ rack ∈ start.rackStatus (start.cc.spec.rackNameAt position),
          ScalesAlone platform start.cc.spec
            (start.cc.spec.completeRackName position.1 position.2) (answers position) rack stored)
    (followed : AllRacks (Followed listed) start.status.cassandraRackStatus)
    (unwritten : ∀ effect ∈ start.effects, effect.writtenRack = none) :
    AllCleared listed answers start.cc.spec
      (reconcileRacks platform answers start.cc.spec.rackPositions start false).pass.effects := by
  refine @reconcileRacks_visits
    (fun pass => AllCleared listed answers start.cc.spec pass.effects) (fun _ _ => True) platform
    answers start start.cc.spec.rackPositions distinct
    (fun position member pass visiting _ cleared => ⟨?_, fun _ _ _ => trivial⟩)
    (fun dcRackName stored sts succeeded written => ?_) (fun _ _ => trivial) false
  · intro dcRackName stored sts succeeded written fewer
    have iteration := reconcileRackAt_case platform (answers position) position.1 position.2 pass
    obtain ⟨more, effects, _⟩ := SpawnsAt.reconcileRackAt platform (answers position) position pass
    have names : pass.cc.spec.completeRackName = start.cc.spec.completeRackName := by
      funext dc rack
      rw [← CassandraClusterSpec.completeRackName_settled, visiting.spec,
        CassandraClusterSpec.completeRackName_settled]
    have here := visiting.rackNameAt
    rcases iteration.cleared
      (fun stored isShrunk rack found => by
        rw [here, visiting.getNodesPerRacks] at isShrunk
        rw [here, visiting.rack] at found
        rw [names]
        exact (alone position member stored isShrunk rack found).settled visiting.spec
          visiting.unlock)
      (fun rack found => by
        rw [here] at found ⊢
        rw [visiting.rack] at found
        exact followed _ rack found) written fewer with old | ⟨same, new⟩
    · obtain ⟨other, known, named, before⟩ := cleared dcRackName stored sts succeeded old fewer
      refine ⟨other, known, named, before.mono fun effect earlier => ?_⟩
      rw [effects]
      exact List.mem_append_left _ earlier
    · exact ⟨position, member, by rw [same, here], new⟩
  · cases unwritten _ written

theorem World.pass_cleared {world : World} {answers : ReconcileAnswers}
    (alone : world.ShrinksAlone platform answers)
    (followed : AllRacks (Followed listed) world.cluster.status.cassandraRackStatus) :
    AllCleared listed answers.racks world.cluster.spec.checkDefaults
      (world.pass platform answers).effects := by
  obtain ⟨distinct, shrinks⟩ := alone
  cases reconcile_loopCase platform world.memory world.cluster answers with
  | quiet outer =>
    intro dcRackName stored sts succeeded written
    cases outer _ written
  | loop start ready started isReady last outer effects =>
    have spec : ready.cc.spec = world.cluster.spec.checkDefaults := isReady.spec.trans started.spec
    have flagged := isReady.flagged
    rw [started.status] at flagged
    have resources : start.cc.NewResources → world.cluster.defaulted.NewResources := by
      rintro ⟨old, applied, changed⟩
      rw [started.applied] at applied
      rw [started.spec] at changed
      exact ⟨old, applied, changed⟩
    have loop : AllCleared listed answers.racks ready.cc.spec
        (ready.looped platform answers).effects := by
      refine reconcileRacks_cleared (spec ▸ distinct) (fun position member stored isShrunk rack
        found => ?_) (followed.flagged (followed_law listed).toRecordLaw flagged.fromFlagged)
        fun effect member => ?_
      · rw [spec] at member isShrunk found ⊢
        obtain ⟨same, isAlone⟩ := shrinks position member stored isShrunk
        refine isAlone rack ?_
        rw [Pass.rackStatus, flagged.eq fun asked => same (resources asked)] at found
        exact found
      · rw [isReady.effects] at member
        exact (started.outer effect member).2
    rw [spec] at loop
    intro dcRackName stored sts succeeded written fewer
    rw [World.pass, effects] at written ⊢
    rcases List.mem_append.mp written with inLoop | after
    · obtain ⟨position, member, named, cleared⟩ :=
        loop dcRackName stored sts succeeded inLoop fewer
      exact ⟨position, member, named,
        cleared.mono fun effect earlier => List.mem_append_left _ earlier⟩
    · cases (outer _ after).2

end Pass

/-! ## Runs -/

/-- The pod was the last one of the rack in a pass of the run that listed its pods. -/
def ListedLast (platform : Platform) (start : World) (events : List Event)
    (dcRackName pod : String) : Prop :=
  ∃ past answers rest position, events = past ++ .pass answers :: rest ∧
    position ∈ (Runs.run (World.step platform) start past).cluster.spec.rackPositions ∧
    (Runs.run (World.step platform) start past).cluster.spec.rackNameAt position = dcRackName ∧
    (answers.racks position).handle.decommission.Lists pod

theorem Followed.mono {listed listed' : String → String → Prop} {name : String}
    (followed : Followed listed name rack) (within : ∀ pod, listed name pod → listed' name pod) :
    Followed listed' name rack :=
  fun scaling => ⟨(followed scaling).named, (followed scaling).known,
    fun pod member => within pod ((followed scaling).listed pod member)⟩

theorem World.run_followed (platform : Platform) (start : World)
    (fresh : start.cluster.status.cassandraRackStatus = ∅) (events : List Event) :
    AllRacks (Followed (ListedLast platform start events))
      (Runs.run (World.step platform) start events).cluster.status.cassandraRackStatus := by
  refine @Runs.run_history World Event (World.step platform) start
    (fun past world => AllRacks (Followed (ListedLast platform start past))
      world.cluster.status.cassandraRackStatus) ?_ (fun past event holds => ?_) events
  · intro name rack found
    rw [fresh] at found
    simp at found
  · have earlier : AllRacks (Followed (ListedLast platform start (past ++ [event])))
        (Runs.run (World.step platform) start past).cluster.status.cassandraRackStatus := by
      refine fun name rack found => (holds name rack found).mono ?_
      rintro pod ⟨before, answers, rest, position, rfl, lists⟩
      exact ⟨before, answers, rest ++ [event], position, by simp, lists⟩
    cases event with
    | edit metadata spec => exact earlier
    | restart => exact earlier
    | pass answers =>
      exact World.pass_allRacks (followed_law _) platform _ answers
        (fun position member rack rack' change => change.followed fun pod lists =>
          ⟨past, answers, [], position, rfl, member, rfl, lists⟩) earlier

/-- In every run from a fresh status, a pass in which the scale down is alone shrinks a
StatefulSet only after the last pod of the rack was let go. -/
theorem shrink_after_decommission (platform : Platform) (start : World)
    (fresh : start.cluster.status.cassandraRackStatus = ∅) (events : List Event)
    (answers : ReconcileAnswers)
    (alone : (Runs.run (World.step platform) start events).ShrinksAlone platform answers) :
    let world := Runs.run (World.step platform) start events
    AllCleared (ListedLast platform start events) answers.racks world.cluster.spec.checkDefaults
      (world.pass platform answers).effects :=
  World.pass_cleared alone (World.run_followed platform start fresh events)

/-! ## A scale down together with a new image -/

def oneRackSpec (image : String) (nodes : Int) : CassandraClusterSpec :=
  { nodesPerRacks := nodes
    cassandraImage := image
    topology := { dc := [{ name := "dc1", rack := [{ name := "rack1" }] }] } }

def oneRackWorld : World :=
  { cluster := { metadata := demoMeta, spec := oneRackSpec "cassandra:4" 2 }
    statefulSets := fun _ => none
    memory := Memory.empty }

def oneRackStatefulSet : StatefulSet :=
  { demoStatefulSet "dc1-rack1" "cassandra:4" 2 with
    spec :=
      { replicas := 2
        template := seededTemplate "cassandra:4"
          (initSeedList demoMeta (oneRackSpec "cassandra:4" 2)) } }

/-- A pass over the rack while its StatefulSet has two pods, both ready. -/
def oneRackPass (now : Nat) (decommission : DecommissionAnswers → DecommissionAnswers) :
    ReconcileAnswers :=
  let calm := calmAnswers now fun _ => oneRackStatefulSet
  { calm with
    racks := fun position =>
      { calm.racks position with
        phasePods := .ok (firstPods "dc1-rack1" 2)
        handle :=
          { (calm.racks position).handle with
            decommission := decommission (calm.racks position).handle.decommission } } }

/-- The second pod is the last one, and is found in this mode. -/
def lastPodIn (mode : OperationMode) (answers : DecommissionAnswers) : DecommissionAnswers :=
  { answers with
    podsList := .ok (firstPods "dc1-rack1" 2)
    pod := .ok (readyPod "demo-dc1-rack1-1")
    operationMode := .ok mode }

/-- The rack is up with two nodes, and then this is asked for. -/
def runningThen (spec : CassandraClusterSpec) : List Event :=
  [.pass (oneRackPass 0 id), .pass (oneRackPass 100 id), .edit demoMeta spec]

/-- The replicas before and after an update of a StatefulSet. -/
def Effect.resizes : Effect → Option (Int × Int)
  | .updateStatefulSet _ stored sts _ => some (stored.spec.replicas, sts.spec.replicas)
  | _ => none

def Effect.letsPass : Effect → Bool
  | .passDecommission .. => true
  | _ => false

/-- Nothing but the scale down, up to the start of the decommission. -/
def scalesDownAlone : List Event :=
  runningThen (oneRackSpec "cassandra:4" 1) ++ [.pass (oneRackPass 300 (lastPodIn .normal))]

theorem scalesDownAlone_shrinksAlone :
    (Runs.run (World.step seededPlatform) oneRackWorld scalesDownAlone).ShrinksAlone
      seededPlatform (oneRackPass 400 (lastPodIn .decommissioned)) := by
  obtain ⟨spec, applied, rackFields⟩ :
      let world := Runs.run (World.step seededPlatform) oneRackWorld scalesDownAlone
      world.cluster.spec.checkDefaults = oneRackSpec "cassandra:4" 1 ∧
        world.cluster.annotation =
          .config { metadata := demoMeta, spec := oneRackSpec "cassandra:4" 1 } ∧
        (world.rackStatus "dc1-rack1").map (fun rack =>
          (rack.phase, weAreScalingDown rack, rack.cassandraLastAction.status)) =
          some (.pending, true, .toDo) := by
    decide +kernel
  have only : (oneRackSpec "cassandra:4" 1).rackPositions = [(0, 0)] := by decide
  unfold World.ShrinksAlone
  rw [spec]
  refine ⟨by decide, fun position member stored isShrunk => ⟨?_, fun rack found => ?_⟩⟩
  · rintro ⟨old, isApplied, changed⟩
    obtain rfl := LastAppliedAnnotation.config.inj (applied.symm.trans isApplied)
    exact changed (congrArg CassandraClusterSpec.resources spec)
  · rw [only, List.mem_singleton] at member
    subst member
    obtain rfl : oneRackStatefulSet = stored := Option.some.inj isShrunk
    change _ = some rack at found
    change Option.map _ (World.rackStatus _ ((oneRackSpec "cassandra:4" 1).rackNameAt (0, 0))) = _
      at rackFields
    rw [found] at rackFields
    simp only [Option.map_some, Option.some.injEq, Prod.mk.injEq] at rackFields
    obtain ⟨phase, scaling, status⟩ := rackFields
    refine ⟨rfl, by decide, by decide, by decide, by decide, ?_, fun _ running => ?_,
      fun idle => ?_⟩
    · simp [phase]
    · exact absurd status running
    · simp [scaling] at idle

theorem scalesDownAlone_cleared :
    let world := Runs.run (World.step seededPlatform) oneRackWorld scalesDownAlone
    let answers := oneRackPass 400 (lastPodIn .decommissioned)
    (world.pass seededPlatform answers).effects.filterMap Effect.resizes = [(2, 1)] ∧
      AllCleared (ListedLast seededPlatform oneRackWorld scalesDownAlone) answers.racks
        world.cluster.spec.checkDefaults (world.pass seededPlatform answers).effects :=
  ⟨by decide +kernel, shrink_after_decommission seededPlatform oneRackWorld rfl scalesDownAlone _
    scalesDownAlone_shrinksAlone⟩

theorem Cleared.letsPass {listed : String → Prop} {answers : DecommissionAnswers}
    {effects : List Effect} (cleared : Cleared listed answers dcRackName effects) :
    effects.any Effect.letsPass = true := by
  cases cleared with
  | left pod mode gone observed last passed => exact List.any_eq_true.mpr ⟨_, passed, rfl⟩
  | unschedulable pods lastPod list last pending reason passed =>
    exact List.any_eq_true.mpr ⟨_, passed, rfl⟩

/-- The image is what the detectors find, and the update takes a node away that nobody has
decommissioned. -/
theorem new_image_shrinks_uncleared :
    let world := Runs.run (World.step seededPlatform) oneRackWorld
      (runningThen (oneRackSpec "cassandra:5" 1))
    let answers := oneRackPass 300 (lastPodIn .normal)
    oneRackWorld.cluster.status.cassandraRackStatus = ∅ ∧
      (world.pass seededPlatform answers).effects.filterMap Effect.resizes = [(2, 1)] ∧
      ¬ AllCleared (ListedLast seededPlatform oneRackWorld
          (runningThen (oneRackSpec "cassandra:5" 1))) answers.racks
        world.cluster.spec.checkDefaults (world.pass seededPlatform answers).effects := by
  intro world answers
  obtain ⟨resized, uncleared⟩ :
      (world.pass seededPlatform answers).effects.filterMap Effect.resizes = [(2, 1)] ∧
        (world.pass seededPlatform answers).effects.any Effect.letsPass = false := by
    decide +kernel
  refine ⟨rfl, resized, fun cleared => ?_⟩
  obtain ⟨effect, member, sizes⟩ : ∃ effect ∈ (world.pass seededPlatform answers).effects,
      effect.resizes = some (2, 1) := by
    refine List.mem_filterMap.mp ?_
    rw [resized]
    exact List.mem_cons_self
  cases effect with
  | updateStatefulSet dcRackName stored sts succeeded =>
    simp only [Effect.resizes, Option.some.injEq, Prod.mk.injEq] at sizes
    obtain ⟨_, _, _, passed⟩ := cleared dcRackName stored sts succeeded member (by omega)
    simp [passed.letsPass] at uncleared
  | _ => cases sizes

end Casskop
