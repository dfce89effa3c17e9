import Casskop.Controller.DecommissionCount
import Casskop.Controller.Scaling
import Casskop.Controller.Unlock

/-!
# Finalizing a decommission

The record of a decommission becomes Finalizing before the StatefulSet is written, and the
passes that follow only wait for the pod to go.  Whether it will go depends on the write
having been made in the same pass.
-/

namespace Casskop

/-- The StatefulSet wants neither this pod nor one behind it. -/
def World.EndsBefore (world : World) (dcRackName pod : String) : Prop :=
  ∀ stored ∈ world.statefulSets dcRackName, stored.spec.replicas ≤ endingNumber pod

/-- The rack waits for the pod to go. -/
structure Finalizing (rack : CassandraRackStatus) (pod : String) : Prop where
  named : rack.podLastOperation.name = .decommission
  status : rack.podLastOperation.status = .finalizing
  running : pod ∈ rack.podLastOperation.running

/-! ## The record -/

/-- A scale down has one pod at a time, and only pods of which `shrunk` holds are waited
for. -/
structure Finalizes (shrunk : String → String → Prop) (name : String)
    (rack : CassandraRackStatus) : Prop where
  single : weAreScalingDown rack = true → rack.podLastOperation.running.length ≤ 1
  waits : ∀ pod, Finalizing rack pod → shrunk name pod

variable {shrunk : String → String → Prop} {name pod : String} {rack : CassandraRackStatus}

section Records

variable {rack' : CassandraRackStatus}

theorem Finalizing.congr (same : SameRecord rack.podLastOperation rack'.podLastOperation)
    (finalizing : Finalizing rack' pod) : Finalizing rack pod :=
  ⟨same.name.symm.trans finalizing.named, same.status.symm.trans finalizing.status,
    same.running ▸ finalizing.running⟩

theorem Finalizes.congr (finalizes : Finalizes shrunk name rack)
    (same : SameRecord rack.podLastOperation rack'.podLastOperation)
    (scaling : weAreScalingDown rack' = true → weAreScalingDown rack = true) :
    Finalizes shrunk name rack' := by
  refine ⟨fun isScaling => ?_, fun pod finalizing => finalizes.waits pod (finalizing.congr same)⟩
  rw [same.running]
  exact finalizes.single (scaling isScaling)

theorem Finalizes.ofStatus (status : rack.podLastOperation.status ≠ .finalizing)
    (single : weAreScalingDown rack = true → rack.podLastOperation.running.length ≤ 1) :
    Finalizes shrunk name rack :=
  ⟨single, fun _ finalizing => absurd finalizing.status status⟩

theorem finalizes_law (shrunk : String → String → Prop) : RackLaw (Finalizes shrunk) where
  initial name := .ofStatus (by simp [initialRackStatus]) fun scaling => by cases scaling
  kept name rack rack' kept finalizes := finalizes.congr (.ofEq kept.record) kept.scaling
  serialized name rack finalizes := finalizes.congr (SameRecord.serialized rack) id
  asked name now old rack record := by
    refine .ofStatus ?_ fun _ => ?_
    · rw [record]
      simp [setDecommissionStatus]
    · rw [record]
      simp [setDecommissionStatus, PodLastOperation.running]
  operated name rack operation idle status := by
    refine .ofStatus ?_ fun scaling => ?_
    · change operation.status ≠ _
      rcases status with ongoing | done
      · simp [ongoing]
      · simp [done]
    · change weAreScalingDown rack = true at scaling
      simp [idle] at scaling
  finalized name op rack finalizes := by
    have same := updatePodLastOperation_kept op rack.podLastOperation
    have running := running_finalized op rack.podLastOperation
    refine ⟨fun scaling => ?_, fun pod finalizing => ?_⟩
    · change (updatePodLastOperation op rack.podLastOperation).running.length ≤ 1
      rw [running]
      exact (List.length_erase_le).trans (finalizes.single scaling)
    · refine finalizes.waits pod ⟨same.1.symm.trans finalizing.named,
        same.2.symm.trans finalizing.status, ?_⟩
      have member : pod ∈ (updatePodLastOperation op rack.podLastOperation).running :=
        finalizing.running
      rw [running] at member
      exact List.mem_of_mem_erase member

end Records

/-! ## Pods that are let go -/

/-- `ensureDecommission` let the pod go. -/
inductive LetsGo (dcRackName pod : String) (effects : List Effect) : Prop where
  | left (mode : OperationMode)
      (passed : .passDecommission dcRackName pod (.leftRing mode) ∈ effects)
  | unschedulable (passed : .passDecommission dcRackName pod .unschedulable ∈ effects)

variable {dcRackName : String} {effects : List Effect}

theorem LetsGo.mono {effects' : List Effect} (lets : LetsGo dcRackName pod effects)
    (within : ∀ effect ∈ effects, effect ∈ effects') : LetsGo dcRackName pod effects' := by
  cases lets with
  | left mode passed => exact .left mode (within _ passed)
  | unschedulable passed => exact .unschedulable (within _ passed)

theorem LetsGo.back {effects' : List Effect} (lets : LetsGo dcRackName pod effects')
    (back : ∀ effect ∈ effects', effect.isDecommission = true → effect ∈ effects) :
    LetsGo dcRackName pod effects := by
  cases lets with
  | left mode passed => exact .left mode (back _ passed rfl)
  | unschedulable passed => exact .unschedulable (back _ passed rfl)

theorem LetsGo.append {first second : List Effect}
    (lets : LetsGo dcRackName pod (first ++ second)) :
    LetsGo dcRackName pod first ∨ LetsGo dcRackName pod second := by
  cases lets with
  | left mode passed => exact (List.mem_append.mp passed).imp (.left mode) (.left mode)
  | unschedulable passed => exact (List.mem_append.mp passed).imp .unschedulable .unschedulable

theorem LetsGo.not_outer (outer : ∀ effect ∈ effects, effect.isOuter = true) :
    ¬ LetsGo dcRackName pod effects := by
  intro lets
  cases lets with
  | left mode passed => cases outer _ passed
  | unschedulable passed => cases outer _ passed

variable {answers : RackAnswers} {result : PodOperationResult} {step : RackStep}
  {position : Nat × Nat}

section Iteration

variable {platform : Platform} {pass : Pass}

theorem afterOperation_keepsEffects (names : CompleteRackName) {effect : Effect}
    (member : effect ∈ result.pass.effects) :
    effect ∈ (afterOperation platform answers names result).pass.effects := by
  by_cases goesOn : result.flow = .continueResyncLoop
  · rw [afterOperation_continue goesOn]
    exact applyRack_keepsEffects names member
  · rw [afterOperation_pass goesOn]
    exact member

theorem DecommissionStep.finalizes {decommission : DecommissionAnswers} {now : Nat} {ready : Bool}
    (step : DecommissionStep now pass dcRackName rack decommission ready result)
    (found : pass.rackStatus dcRackName = some rack) (scaling : weAreScalingDown rack = true)
    (satisfies : Throughout (AllRacks (Finalizes shrunk)) pass)
    (lets : ∀ pod, LetsGo dcRackName pod result.pass.effects → shrunk dcRackName pod) :
    Throughout (AllRacks (Finalizes shrunk)) result.pass := by
  have before : Finalizes shrunk dcRackName rack := satisfies.working dcRackName rack found
  have changed : ∀ rack', Finalizes shrunk dcRackName rack' →
      Throughout (AllRacks (Finalizes shrunk))
        (pass.setRackStatus dcRackName rack') :=
    fun rack' holds => satisfies.setRackStatus (satisfies.working.insert holds)
  cases step with
  | wait => exact satisfies
  | fault => exact satisfies
  | otherOperation other => exact satisfies.emit (by simp)
  | unknownStatus unknown => exact satisfies.emit (by simp)
  | start pods lastPod mode named asked listed last observed =>
    refine (changed _ (.ofStatus ?_ fun _ => ?_)).emit (by simp)
    · simp [startDecommission, setOperation]
    · simp [startDecommission, setOperation, PodLastOperation.running]
  | bypass pods lastPod named asked listed last pending reason =>
    refine (changed _ ⟨fun _ => ?_, fun pod finalizing => ?_⟩).emit (by simp)
    · simp [bypassDecommission, setOperation, setActionStatus, PodLastOperation.running]
    · obtain rfl : pod = lastPod.name := List.mem_singleton.mp finalizing.running
      exact lets lastPod.name (.unschedulable (by simp))
  | retry ongoing =>
    exact changed _ (.ofStatus (by simp [setOperation]) fun _ => before.single scaling)
  | left podName others mode ongoing pods gone observed =>
    have running : rack.podLastOperation.running = podName :: others := by
      simp [PodLastOperation.running, pods]
    have single := before.single scaling
    rw [running, List.length_cons] at single
    obtain rfl := List.eq_nil_of_length_eq_zero (Nat.le_zero.mp (Nat.le_of_succ_le_succ single))
    have finalized : Finalizes shrunk dcRackName
        (setOperation rack fun operation => { operation with status := .finalizing }) := by
      refine ⟨fun _ => before.single scaling, fun pod finalizing => ?_⟩
      have member : pod ∈ rack.podLastOperation.running := finalizing.running
      rw [running, List.mem_singleton] at member
      subst member
      exact lets pod (.left mode (List.mem_append_left _ (by simp)))
    refine Satisfies.updateCassandraStatus ?_ (fun _ holds => holds) decommission.write
    exact (changed _ finalized).emit (by simp)
  | finish podName others effects finalizing pods claim named =>
    refine (changed _ (.ofStatus ?_ fun _ => ?_)).emit fun status succeeded member => ?_
    · cases ready <;> simp [setOperation]
    · simp [setOperation, PodLastOperation.running]
    · cases claim _ member
  | more done =>
    refine changed _ (.ofStatus ?_ fun _ => before.single scaling)
    change rack.podLastOperation.status ≠ _
    simp [done]

theorem RackPath.finalizes {dcAt rackAt : Nat} {names : CompleteRackName}
    (path : RackPath platform answers dcAt rackAt names rack pass step)
    (here : pass.cc.spec.completeRackName dcAt rackAt = names)
    (found : pass.rackStatus names.dcRackName = some rack)
    (satisfies : Throughout (AllRacks (Finalizes shrunk)) pass)
    (lets : ∀ name pod, LetsGo name pod step.pass.effects → shrunk name pod) :
    Throughout (AllRacks (Finalizes shrunk)) step.pass := by
  have laws := finalizes_law shrunk
  cases path with
  | unread failed => exact laws.applyRack _ satisfies
  | phaseFault => exact satisfies
  | observed sts phased next read phase action step path =>
    obtain ⟨moves, _⟩ := observed_moves platform dcAt rackAt here read found phase action
    have reached := moves.satisfies laws.observing satisfies
    rcases path with ⟨_, rfl⟩ | path
    · exact reached
    · cases path with
      | initializing phase => exact laws.applyRack _ reached
      | operation result idle made later kept =>
        exact laws.afterOperation _ (later.satisfies (laws.operating _) reached)
      | decommission result scaling called =>
        refine laws.afterOperation _ (called.finalizes (Pass.rackStatus_applyNext _ _ _) scaling
          reached fun pod letsGo => lets _ pod (letsGo.mono fun effect member => ?_))
        exact afterOperation_keepsEffects _ member

theorem IterationCase.finalizes
    (iteration : IterationCase platform answers position.1 position.2 pass step)
    (satisfies : Throughout (AllRacks (Finalizes shrunk)) pass)
    (lets : ∀ name pod, LetsGo name pod step.pass.effects → shrunk name pod) :
    Throughout (AllRacks (Finalizes shrunk)) step.pass := by
  cases iteration with
  | nameless empty => exact satisfies
  | added absent =>
    exact satisfies.setRackStatus
      (satisfies.working.insert ((finalizes_law shrunk).initial _))
  | deleting deletes => exact satisfies.deletePVCs
  | handled rack written step found alive handled path =>
    exact path.finalizes rfl found satisfies lets

end Iteration

section Pass

theorem reconcileRacks_finalizes (platform : Platform) (answers : Nat × Nat → RackAnswers)
    (positions : List (Nat × Nat)) (start : Pass)
    (satisfies : Throughout (AllRacks (Finalizes shrunk)) start)
    (newStatus : Bool)
    (lets : ∀ name pod, LetsGo name pod
      (reconcileRacks platform answers positions start newStatus).pass.effects →
      shrunk name pod) :
    Throughout (AllRacks (Finalizes shrunk))
      (reconcileRacks platform answers positions start newStatus).pass := by
  -- The effects only grow, so what holds of the pods let go at the end holds before.
  refine @reconcileRacks_invariant
    (fun pass => (∀ name pod, LetsGo name pod pass.effects → shrunk name pod) →
      Throughout (AllRacks (Finalizes shrunk)) pass) platform answers
    positions ?_ start newStatus (fun _ => satisfies) lets
  intro position _ pass step holds iteration lets
  obtain ⟨more, effects, _⟩ := SpawnsAt.iterationCase iteration
  refine iteration.finalizes (holds fun name pod letsGo => lets name pod ?_) lets
  refine letsGo.mono fun effect member => ?_
  rw [effects]
  exact List.mem_append_left _ member

/-- After a pass the racks wait for pods they waited for before and for pods the pass
let go. -/
theorem World.pass_finalizes (platform : Platform) (world : World) (answers : ReconcileAnswers)
    (holds : AllRacks (Finalizes shrunk) world.cluster.status.cassandraRackStatus)
    (lets : ∀ name pod, LetsGo name pod (world.pass platform answers).effects →
      shrunk name pod) :
    AllRacks (Finalizes shrunk)
      (world.step platform (.pass answers)).cluster.status.cassandraRackStatus := by
  have laws := finalizes_law shrunk
  refine world.pass_allRacks_of_loop laws.toRecordLaw platform answers holds
    fun start ready last started isReady effects => ?_
  refine reconcileRacks_finalizes platform answers.racks _ ready
    (isReady.allRacks laws started holds) false fun name pod letsGo => lets name pod ?_
  refine letsGo.mono fun effect member => ?_
  rw [effects]
  exact List.mem_append_left _ member

end Pass

/-! ## What the StatefulSet ends with -/

/-- The generated StatefulSet can be fitted to the stored one, and the comparison of the two
sees the replicas. -/
structure Platform.Resizes (platform : Platform) (dcRackName : String) (stored : StatefulSet) :
    Prop where
  builds : ∀ cc status rack, ((generateCassandraStatefulSet platform cc status dcRackName).bind
    (wantedStatefulSet rack stored)).isSome = true
  compares : ∀ sts, statefulSetsAreEqual platform stored sts = true →
    sts.spec.replicas = stored.spec.replicas

/-- Nothing that may be written makes the StatefulSet want the pod again. -/
structure RackAnswers.StaysBelow (answers : RackAnswers) (world : World) (nodesPerRacks : Int)
    (dcRackName pod : String) : Prop where
  wanted : nodesPerRacks ≤ endingNumber pod
  present : answers.statefulSet ≠ .error .notFound
  current : ∀ stored, answers.ensure.stored = .ok stored →
    world.statefulSets dcRackName = some stored ∧ Near nodesPerRacks stored.spec.replicas

/-- The pod is the last one the StatefulSet wants, and the update that takes it away is
made. -/
structure RackAnswers.Shrinks (answers : RackAnswers) (platform : Platform) (world : World)
    (nodesPerRacks : Int) (dcRackName pod : String) (stored : StatefulSet) : Prop where
  wanted : nodesPerRacks ≤ endingNumber pod
  read : answers.ensure.stored = .ok stored
  current : world.statefulSets dcRackName = some stored
  last : stored.spec.replicas ≤ endingNumber pod + 1
  near : Near nodesPerRacks stored.spec.replicas
  update : answers.ensure.update = .ok ()
  resizes : platform.Resizes dcRackName stored

variable {names : CompleteRackName}

section Writes

variable {platform : Platform} {answers : RackAnswers} {pass : Pass} {world : World}
  {dcRackName pod : String} {nodesPerRacks : Int} {stored : StatefulSet}

theorem stepReplicas_le {replicas bound : Int} (near : Near nodesPerRacks replicas)
    (wanted : nodesPerRacks ≤ bound) (last : replicas ≤ bound + 1) :
    stepReplicas replicas nodesPerRacks ≤ bound := by
  rw [stepReplicas_eq_sign near.storedRange near.targetRange near.difference]
  rcases lt_trichotomy replicas nodesPerRacks with up | rfl | down
  · rw [Int.sign_eq_one_of_pos (by omega)]
    omega
  · simpa using wanted
  · rw [Int.sign_eq_neg_one_of_neg (by omega)]
    omega

namespace World

theorem endsBefore_congr {world' : World}
    (same : world'.statefulSets dcRackName = world.statefulSets dcRackName)
    (ends : world.EndsBefore dcRackName pod) : world'.EndsBefore dcRackName pod := by
  intro stored found
  rw [same] at found
  exact ends stored found

theorem setStatefulSet_self (sts : Option StatefulSet) :
    (world.setStatefulSet dcRackName sts).statefulSets dcRackName = sts :=
  Function.update_self ..

theorem endsBefore_setStatefulSet {sts : StatefulSet} (few : sts.spec.replicas ≤ endingNumber pod) :
    (world.setStatefulSet dcRackName (some sts)).EndsBefore dcRackName pod := by
  intro stored found
  rw [setStatefulSet_self, Option.mem_some_iff] at found
  exact found ▸ few

theorem endsBefore_deleted : (world.setStatefulSet dcRackName none).EndsBefore dcRackName pod := by
  intro stored found
  rw [setStatefulSet_self] at found
  cases found

end World

/-- A pod that the StatefulSet no longer wants is not wanted again. -/
theorem WriteReason.endsBefore {effect : Effect}
    (reason : WriteReason dcRackName answers pass effect)
    (below : answers.StaysBelow world (pass.cc.spec.getNodesPerRacks dcRackName) dcRackName pod)
    (ends : world.EndsBefore dcRackName pod) :
    (world.applyEffect effect).EndsBefore dcRackName pod := by
  cases reason with
  | create sts gate absent replicas =>
    cases Except.succeeded answers.ensure.create with
    | false => exact ends
    | true => exact World.endsBefore_setStatefulSet (replicas ▸ below.wanted)
  | update stored sts gate read replicas =>
    obtain ⟨current, near⟩ := below.current stored read
    cases Except.succeeded answers.ensure.update with
    | false => exact ends
    | true =>
      refine World.endsBefore_setStatefulSet ?_
      rw [replicas]
      have few := ends stored current
      exact stepReplicas_le near below.wanted (by omega)
  | recreate sts absent => exact absurd absent below.present
  | orphan =>
    cases Except.succeeded answers.upsize.delete with
    | false => exact ends
    | true => exact World.endsBefore_deleted

/-! ## The write that follows -/

theorem afterEnsure_writes (dcRackName : String) (result : PodOperationResult) :
    (afterEnsure dcRackName result).pass.writes = result.pass.writes := by
  have reset : result.pass.resetUnlock.writes = result.pass.writes := by
    unfold Pass.resetUnlock
    split <;> rfl
  have waited : (result.pass.resetUnlock.waitIfConfiguring dcRackName).writes =
      result.pass.resetUnlock.writes := by
    unfold Pass.waitIfConfiguring
    split
    · simp [Pass.writes, Effect.writtenRack]
    · rfl
  unfold afterEnsure
  split
  · rfl
  · rfl
  · exact waited.trans reset
  · dsimp only
    split
    · exact reset
    · exact reset

/-- What becomes of the StatefulSet of a rack that is scaling down, when the gate is open. -/
inductive Resized (answers : StatefulSetAnswers) (dcRackName : String) (stored : StatefulSet)
    (replicas : Int) (before after : List Effect) : Prop where
  | updated (sts : StatefulSet) (few : sts.spec.replicas = replicas)
      (writes : after = before ++
        [.updateStatefulSet dcRackName stored sts (Except.succeeded answers.update)])
  | same (few : stored.spec.replicas = replicas) (writes : after = before)

theorem ensureCassandraStatefulSet_resized {ensure : StatefulSetAnswers}
    (scaling : weAreScalingDown rack = true) (gate : hasNoPodDisruption pass.storedPdb = true)
    (read : ensure.stored = .ok stored) (resizes : platform.Resizes dcRackName stored) (now : Nat) :
    Resized ensure dcRackName stored
      (stepReplicas stored.spec.replicas (pass.cc.spec.getNodesPerRacks dcRackName)) pass.writes
      (ensureCassandraStatefulSet platform now pass dcRackName rack ensure).pass.writes := by
  have named := ((weAreScalingDown_eq rack).mp scaling).1
  have noSeeds : updatesSeedList rack = false := by simp [updatesSeedList, named]
  have noRestart : restarts rack = false := by simp [restarts, named]
  obtain ⟨wanted, isWanted⟩ :=
    Option.isSome_iff_exists.mp (resizes.builds pass.cc pass.status rack)
  obtain ⟨sts, generated, fitted⟩ := Option.bind_eq_some_iff.mp isWanted
  obtain ⟨kept, keeps, reverts⟩ := Option.bind_eq_some_iff.mp fitted
  have replicas : wanted.spec.replicas =
      stepReplicas stored.spec.replicas (pass.cc.spec.getNodesPerRacks dcRackName) := by
    rw [revertAnyStorageUpsize_replicas reverts, ← generateCassandraStatefulSet_replicas generated]
    have seeded : kept.spec.replicas = sts.spec.replicas :=
      (keepStoredSeeds_replicas keeps).trans rfl
    exact congrArg (stepReplicas stored.spec.replicas) seeded
  unfold ensureCassandraStatefulSet
  rw [generated]
  dsimp only
  unfold createOrUpdateStatefulSet
  rw [if_neg (by simp [gate]), read]
  dsimp only
  rw [if_neg (by simp [noSeeds]), keeps]
  dsimp only
  unfold writeStatefulSet
  dsimp only
  rw [reverts]
  dsimp only
  rw [startRestart_of_not noRestart]
  split
  · rename_i equal
    exact .same ((resizes.compares wanted equal.2).symm.trans replicas) rfl
  · exact .updated wanted replicas (by simp [Pass.writes, Pass.setRackStatus, Effect.writtenRack])

theorem applyRack_resized (found : pass.rackStatus names.dcRackName = some rack)
    (scaling : weAreScalingDown rack = true) (gate : hasNoPodDisruption pass.storedPdb = true)
    (none : answers.leftover.beforeWrite = none) (read : answers.ensure.stored = .ok stored)
    (resizes : platform.Resizes names.dcRackName stored) :
    Resized answers.ensure names.dcRackName stored
      (stepReplicas stored.spec.replicas (pass.cc.spec.getNodesPerRacks names.dcRackName))
      pass.writes (applyRack platform answers names pass).pass.writes := by
  have ordinary : isStorageUpsizeStarted rack = false := by
    simp [isStorageUpsizeStarted, ((weAreScalingDown_eq rack).mp scaling).1]
  unfold applyRack
  rw [found]
  dsimp only
  rw [if_neg (by simp [ordinary]), none, afterEnsure_writes]
  exact ensureCassandraStatefulSet_resized scaling gate read resizes answers.now

theorem Resized.endsBefore {after : List Effect}
    (resized : Resized answers.ensure dcRackName stored
      (stepReplicas stored.spec.replicas nodesPerRacks) [] after)
    (shrinks : answers.Shrinks platform world nodesPerRacks dcRackName pod stored) :
    (world.applyEffects after).EndsBefore dcRackName pod := by
  have few := stepReplicas_le shrinks.near shrinks.wanted shrinks.last
  cases resized with
  | updated sts replicas writes =>
    rw [writes, shrinks.update]
    exact World.endsBefore_setStatefulSet (replicas.trans_le few)
  | same replicas writes =>
    rw [writes]
    intro other found
    obtain rfl : stored = other := Option.some.inj (shrinks.current.symm.trans found)
    exact replicas.trans_le few

end Writes

/-! ## Where a pod is let go -/

/-- `ensureDecommission` may let the pod go. -/
inductive RackAnswers.MayLetGo (answers : RackAnswers) (rack : CassandraRackStatus)
    (pod : String) : Prop where
  | left (mode : OperationMode) (gone : mode = .decommissioned ∨ mode = .unknown)
      (observed : answers.handle.decommission.operationMode = .ok mode)
      (scaling : weAreScalingDown rack = true)
      (ongoing : rack.podLastOperation.status = .ongoing)
      (running : pod ∈ rack.podLastOperation.running)
  | unschedulable (lists : answers.handle.decommission.Lists pod)
      (pending : ∀ pods lastPod, answers.handle.decommission.podsList = .ok pods →
        getLastOrFirstPodItem pods true = some lastPod → lastPod.phase = .pending ∧
          ∃ condition conditions, lastPod.conditions = some (condition :: conditions) ∧
            condition.reason = "Unschedulable")

variable {spec : CassandraClusterSpec}

section Calls

variable {platform : Platform} {answers : RackAnswers} {pass : Pass} {name pod : String}
  {rack rack' : CassandraRackStatus}

theorem RackAnswers.MayLetGo.of_recordKept (may : answers.MayLetGo rack' pod)
    (kept : RecordKept rack rack') : answers.MayLetGo rack pod := by
  cases may with
  | left mode gone observed scaling ongoing running =>
    rw [kept.record] at ongoing running
    exact .left mode gone observed (kept.scaling scaling) ongoing running
  | unschedulable lists pending => exact .unschedulable lists pending

/-- What is observed of the rack does not matter: a record that is new is To-Do. -/
theorem RackAnswers.MayLetGo.observed (changes : ObservedChanges spec dcRackName answers rack rack')
    (may : answers.MayLetGo rack' pod) : answers.MayLetGo rack pod := by
  induction changes with
  | refl => exact may
  | tail _ change induction =>
    refine induction ?_
    rcases change.record_cases with kept | ⟨_, old, record⟩
    · exact may.of_recordKept kept
    · cases may with
      | left mode gone observed scaling ongoing running =>
        rw [record] at ongoing
        cases ongoing
      | unschedulable lists pending => exact .unschedulable lists pending

theorem DecommissionStep.letsGo {ready : Bool}
    (step : DecommissionStep answers.now pass dcRackName rack answers.handle.decommission ready
      result) (scaling : weAreScalingDown rack = true)
    (lets : LetsGo name pod result.pass.effects) :
    LetsGo name pod pass.effects ∨ name = dcRackName ∧ answers.MayLetGo rack pod ∧
      result.flow = .continueResyncLoop ∧ ∃ rack',
        result.pass.rackStatus dcRackName = some rack' ∧ weAreScalingDown rack' = true := by
  cases step with
  | wait | fault | retry | more => exact Or.inl lets
  | otherOperation | unknownStatus | start =>
    refine lets.append.imp_right fun new => ?_
    cases new with
    | left mode passed => simp at passed
    | unschedulable passed => simp at passed
  | finish podName others effects finalizing pods claim named =>
    refine lets.append.imp_right fun new => ?_
    cases new with
    | left mode passed => cases claim _ passed
    | unschedulable passed => cases claim _ passed
  | bypass pods lastPod named asked listed last pending reason =>
    refine lets.append.imp_right fun new => ?_
    cases new with
    | left mode passed => simp at passed
    | unschedulable passed =>
      simp only [List.mem_singleton, Effect.passDecommission.injEq, and_true] at passed
      obtain ⟨rfl, rfl⟩ := passed
      refine ⟨rfl, .unschedulable ⟨pods, lastPod, listed, last, rfl⟩ ?_, rfl,
        bypassDecommission lastPod.name rack, Pass.rackStatus_setRackStatus _ _ _, ?_⟩
      · intro pods' lastPod' listed' last'
        obtain rfl := Except.ok.inj (listed.symm.trans listed')
        obtain rfl := Option.some.inj (last.symm.trans last')
        exact ⟨pending, reason⟩
      · exact (weAreScalingDown_eq _).mpr
          ⟨((weAreScalingDown_eq rack).mp scaling).1, Or.inr (Or.inr rfl)⟩
  | left podName others mode ongoing pods gone observed =>
    rcases lets.append with before | written
    · refine before.append.imp_right fun new => ?_
      cases new with
      | left mode' passed =>
        simp only [List.mem_singleton, Effect.passDecommission.injEq] at passed
        obtain ⟨rfl, rfl, _⟩ := passed
        refine ⟨rfl, .left mode gone observed scaling ongoing ?_, rfl,
          setOperation rack fun operation => { operation with status := .finalizing },
          Pass.rackStatus_setRackStatus _ _ _, scaling⟩
        simp [PodLastOperation.running, pods]
      | unschedulable passed => simp at passed
    · exfalso
      cases written with
      | left mode passed => cases updateCassandraStatus_uninvolved passed
      | unschedulable passed => cases updateCassandraStatus_uninvolved passed

/-- The call lets the pod go, and the pass goes on to the StatefulSet. -/
structure LetsGoAt (platform : Platform) (answers : RackAnswers) (names : CompleteRackName)
    (pass : Pass) (step : RackStep) (between : Pass) (rack : CassandraRackStatus) : Prop where
  moves : Moves (.ordinary pass.cc.spec names.dcRackName answers) names.dcRackName answers pass
    between
  found : between.rackStatus names.dcRackName = some rack
  scaling : weAreScalingDown rack = true
  step : step = applyRack platform answers names between

theorem RackPath.letsGo {dcAt rackAt : Nat}
    (path : RackPath platform answers dcAt rackAt names rack pass step)
    (here : pass.cc.spec.completeRackName dcAt rackAt = names)
    (found : pass.rackStatus names.dcRackName = some rack)
    (lets : LetsGo name pod step.pass.effects) :
    LetsGo name pod pass.effects ∨ name = names.dcRackName ∧ answers.MayLetGo rack pod ∧
      ∃ between rack', LetsGoAt platform answers names pass step between rack' := by
  cases path with
  | unread failed =>
    exact Or.inl (lets.back fun _ member involved => applyRack_decommission member involved)
  | phaseFault => exact Or.inl lets
  | observed sts phased next read phase action step path =>
    obtain ⟨moves, changes⟩ := observed_moves platform dcAt rackAt here read found phase action
    have back := fun effect member involved =>
      @Moves.decommission _ _ _ _ _ effect moves (Part.observing_uninvolved _) member involved
    rcases path with ⟨_, rfl⟩ | path
    · exact Or.inl (lets.back back)
    · cases path with
      | initializing phase =>
        refine Or.inl ((lets.back fun _ member involved => ?_).back back)
        exact applyRack_decommission member involved
      | operation result idle made later kept =>
        refine Or.inl ((lets.back fun _ member involved => ?_).back back)
        exact later.decommission Part.operating_uninvolved
          (afterOperation_decommission member involved) involved
      | decommission result scaling called =>
        have known := Pass.rackStatus_applyNext (pass.phased answers names.dcRackName phased)
          names.dcRackName next
        rcases called.letsGo scaling (lets.back fun _ member involved =>
          afterOperation_decommission member involved) with
          old | ⟨rfl, may, goesOn, rack', found', scaling'⟩
        · exact Or.inl (old.back back)
        · refine Or.inr ⟨rfl, may.observed changes, result.pass, rack', ?_, found', scaling',
            afterOperation_continue goesOn⟩
          exact (moves.within Part.observing_within).trans
            ((called.moves known scaling).within Part.decommissioning_within)

theorem IterationCase.letsGo
    (iteration : IterationCase platform answers position.1 position.2 pass step)
    (lets : LetsGo name pod step.pass.effects) :
    LetsGo name pod pass.effects ∨ name = pass.cc.spec.rackNameAt position ∧
      ∃ rack ∈ pass.rackStatus (pass.cc.spec.rackNameAt position), answers.MayLetGo rack pod ∧
        ∃ between rack', LetsGoAt platform answers
          (pass.cc.spec.completeRackName position.1 position.2) pass step between rack' := by
  cases iteration with
  | nameless empty => exact Or.inl lets
  | added absent => exact Or.inl lets
  | deleting deletes =>
    refine lets.append.imp_right fun new => ?_
    have none := deletePVCs_quiet answers
    cases new with
    | left mode passed => simpa using none _ passed
    | unschedulable passed => simpa using none _ passed
  | handled rack written step found alive handled path =>
    exact (path.letsGo rfl found lets).imp_right fun ⟨same, may, at'⟩ =>
      ⟨same, rack, found, may, at'⟩

end Calls

/-! ## One rack after the other -/

variable {start : Pass}

section Loop

variable {platform : Platform} {world : World} {pass : Pass} {pod : String}

/-- The goroutines of earlier passes are done. -/
def RackAnswers.Undisturbed (answers : RackAnswers) : Prop :=
  answers.leftover.beforeDetection = none ∧ answers.leftover.beforeWrite = none

theorem Moves.storedPdb {part : Part} {before after : Pass}
    (moves : Moves part dcRackName answers before after) (undisturbed : answers.Undisturbed) :
    after.storedPdb = before.storedPdb := by
  induction moves with
  | refl => rfl
  | tail _ move induction => exact (move.storedPdb undisturbed).trans induction

section

variable (iteration : IterationCase platform answers position.1 position.2 pass step)

include iteration

theorem IterationCase.storedPdb
    (undisturbed : answers.Undisturbed) : step.pass.storedPdb = pass.storedPdb := by
  cases iteration with
  | nameless | added | deleting => rfl
  | handled rack written step found alive handled path =>
    obtain ⟨middle, first, _, second⟩ := handled.iteration.split
    exact (second.storedPdb undisturbed).trans (first.storedPdb undisturbed)

theorem IterationCase.writes :
    ∃ written middle, step.pass.writes = pass.writes ++ written ∧ written.length ≤ 1 ∧
      middle.cc.spec.settled = pass.cc.spec.settled ∧
      ∀ effect ∈ written, WriteReason (pass.cc.spec.rackNameAt position) answers middle effect := by
  cases iteration with
  | nameless | added => exact ⟨[], pass, by simp [Pass.writes, Pass.setRackStatus], by simp⟩
  | deleting deletes =>
    refine ⟨[], pass, ?_, by simp⟩
    have quiet : ∀ effect ∈ deletePVCs answers, effect.writtenRack = none := by
      intro effect member
      obtain ⟨_, rfl⟩ := deletePVCs_quiet answers effect member
      rfl
    simpa [Pass.writes] using quiet
  | handled rack written step found alive handled path =>
    obtain ⟨middle, first, reasons, _⟩ := handled.iteration.split
    exact ⟨written, middle, handled.iteration.frame.writes, handled.iteration.single,
      first.frame.spec, reasons⟩

theorem IterationCase.endsBefore_ne (other : name ≠ pass.cc.spec.rackNameAt position)
    (ends : (world.applyEffects pass.writes).EndsBefore name pod) :
    (world.applyEffects step.pass.writes).EndsBefore name pod := by
  obtain ⟨written, middle, writes, _, _, reasons⟩ := iteration.writes
  rw [writes, World.applyEffects_append]
  refine World.endsBefore_congr ?_ ends
  refine World.applyEffects_statefulSets_ne written _ fun effect member same => other ?_
  rw [(reasons effect member).writtenRack] at same
  exact (Option.some.inj same).symm

theorem IterationCase.endsBefore
    (unwritten : pass.writes = [])
    (below : answers.StaysBelow world (pass.cc.spec.getNodesPerRacks (pass.cc.spec.rackNameAt
      position)) (pass.cc.spec.rackNameAt position) pod)
    (ends : world.EndsBefore (pass.cc.spec.rackNameAt position) pod) :
    (world.applyEffects step.pass.writes).EndsBefore (pass.cc.spec.rackNameAt position) pod := by
  obtain ⟨written, middle, writes, single, settled, reasons⟩ := iteration.writes
  rw [writes, unwritten, List.nil_append]
  cases written with
  | nil => exact ends
  | cons effect rest =>
    obtain rfl : rest = [] := List.eq_nil_of_length_eq_zero (by simpa using single)
    refine (reasons effect List.mem_cons_self).endsBefore ?_ ends
    rw [CassandraClusterSpec.getNodesPerRacks_of_settled settled]
    exact below

end

theorem LetsGoAt.endsBefore {between : Pass} {stored : StatefulSet}
    (at' : LetsGoAt platform answers names pass step between rack) (unwritten : pass.writes = [])
    (gate : hasNoPodDisruption pass.storedPdb = true) (undisturbed : answers.Undisturbed)
    (shrinks : answers.Shrinks platform world (pass.cc.spec.getNodesPerRacks names.dcRackName)
      names.dcRackName pod stored) :
    (world.applyEffects step.pass.writes).EndsBefore names.dcRackName pod := by
  have quiet := at'.moves.frame.writes
  rw [unwritten, List.append_nil] at quiet
  rw [← at'.moves.storedPdb undisturbed] at gate
  have resized := applyRack_resized at'.found at'.scaling gate undisturbed.2 shrinks.read
    shrinks.resizes
  rw [quiet, CassandraClusterSpec.getNodesPerRacks_of_settled at'.moves.frame.spec, ← at'.step]
    at resized
  exact resized.endsBefore shrinks

/-- The scale downs of a pass come to their end.  The StatefulSet of a rack that waits for a
pod stays as it is or shrinks.  Where a pod may be let go, it is the last one, no disruption
is reported, and the update is made. -/
structure World.ShrinksRightly (world : World) (platform : Platform) (answers : ReconcileAnswers)
    (spec : CassandraClusterSpec) (racks : RackStatuses) : Prop where
  distinct : (spec.rackPositions.map spec.rackNameAt).Nodup
  finalizing : ∀ position ∈ spec.rackPositions,
    ∀ rack ∈ racks.lookup (spec.rackNameAt position), ∀ pod, Finalizing rack pod →
      (answers.racks position).StaysBelow world
        (spec.getNodesPerRacks (spec.rackNameAt position)) (spec.rackNameAt position) pod
  letsGo : ∀ position ∈ spec.rackPositions,
    ∀ rack ∈ racks.lookup (spec.rackNameAt position), ∀ pod,
      (answers.racks position).MayLetGo rack pod →
      (∃ stored, (answers.racks position).Shrinks platform world
        (spec.getNodesPerRacks (spec.rackNameAt position)) (spec.rackNameAt position) pod
        stored) ∧
      hasNoPodDisruption (pdbRead world.cluster answers.pdb).stored = true ∧
      ∀ other ∈ spec.rackPositions, (answers.racks other).Undisturbed

/-- No pod that is waited for or was let go is wanted by its StatefulSet. -/
def NoneWanted (world : World) (start pass : Pass) : Prop :=
  ∀ name pod, (∃ rack ∈ start.rackStatus name, Finalizing rack pod) ∨
    LetsGo name pod pass.effects → (world.applyEffects pass.writes).EndsBefore name pod

theorem reconcileRacks_noneWanted {answers : ReconcileAnswers}
    (rightly : world.ShrinksRightly platform answers start.cc.spec start.status.cassandraRackStatus)
    (pdb : start.storedPdb = (pdbRead world.cluster answers.pdb).stored)
    (quiet : ∀ name pod, ¬ LetsGo name pod start.effects) (unwritten : start.writes = [])
    (holds : NoneWanted world start start) :
    NoneWanted world start (start.looped platform answers) := by
  refine @reconcileRacks_visits (NoneWanted world start)
    (fun name pass => (∀ pod, ¬ LetsGo name pod pass.effects) ∧
      ((∀ other ∈ start.cc.spec.rackPositions, (answers.racks other).Undisturbed) →
        pass.storedPdb = start.storedPdb)) platform answers.racks start
    start.cc.spec.rackPositions rightly.distinct ?_ holds
    (fun position _ => ⟨fun pod => quiet _ pod, fun _ => rfl⟩) false
  intro position member pass visiting pending noneWanted
  have iteration := reconcileRackAt_case platform (answers.racks position) position.1 position.2
    pass
  generalize reconcileRackAt platform (answers.racks position) position.1 position.2 pass = step
    at iteration
  have here := visiting.rackNameAt
  have none := visiting.writes.trans unwritten
  have nodes := visiting.getNodesPerRacks
  have another : ∀ name pod, name ≠ start.cc.spec.rackNameAt position →
      LetsGo name pod step.pass.effects → LetsGo name pod pass.effects := by
    intro name pod different lets
    refine (iteration.letsGo lets).resolve_right fun ⟨same, _⟩ => different ?_
    rw [same, here]
  refine ⟨fun name pod cause => ?_, fun name different waiting =>
    ⟨fun pod lets => waiting.1 pod (another name pod different lets), fun undisturbed => ?_⟩⟩
  · by_cases same : name = start.cc.spec.rackNameAt position
    · subst same
      rcases cause with ⟨rack, found, finalizing⟩ | lets
      · -- Waited for since an earlier pass.
        have ends := noneWanted _ pod (Or.inl ⟨rack, found, finalizing⟩)
        have below := rightly.finalizing position member rack found pod finalizing
        rw [none] at ends
        rw [← here, ← nodes] at below
        rw [← here] at ends ⊢
        exact iteration.endsBefore none below ends
      · rcases iteration.letsGo lets with old | ⟨_, rack, found, may, between, rack', at'⟩
        · exact absurd old (pending.1 pod)
        · rw [here, visiting.rack] at found
          obtain ⟨⟨stored, shrinks⟩, free, undisturbed⟩ :=
            rightly.letsGo position member rack found pod may
          have gate : hasNoPodDisruption pass.storedPdb = true := by
            rw [pending.2 undisturbed, pdb]
            exact free
          rw [← here, ← nodes] at shrinks
          rw [← here]
          exact at'.endsBefore none gate (undisturbed position member) shrinks
    · have ends := noneWanted name pod (cause.imp_right (another name pod same))
      refine iteration.endsBefore_ne ?_ ends
      rw [here]
      exact same
  · exact (iteration.storedPdb (undisturbed position member)).trans (waiting.2 undisturbed)

end Loop

/-! ## The pass -/

variable {world : World}

section Pass

variable {platform : Platform} {answers : ReconcileAnswers}

theorem FromFlagged.recordKept {flags : Prop} {before after : RackStatuses}
    (flagged : FromFlagged flags before after) (found : after.lookup name = some rack) :
    ∃ old, before.lookup name = some old ∧ RecordKept old rack := by
  rcases flagged name rack found with kept | ⟨old, now, _, present, rfl⟩
  · exact ⟨rack, kept, rfl, id⟩
  · refine ⟨old, present, rfl, fun scaling => ?_⟩
    simp [weAreScalingDown_eq, flagUpdateResources] at scaling

theorem World.ShrinksRightly.flagged {flags : Prop} {racks racks' : RackStatuses}
    (rightly : world.ShrinksRightly platform answers spec racks)
    (flagged : FromFlagged flags racks racks') :
    world.ShrinksRightly platform answers spec racks' := by
  refine ⟨rightly.distinct, fun position member rack found pod finalizing => ?_,
    fun position member rack found pod may => ?_⟩
  · obtain ⟨old, present, kept⟩ := flagged.recordKept found
    exact rightly.finalizing position member old present pod (finalizing.congr (.ofEq kept.record))
  · obtain ⟨old, present, kept⟩ := flagged.recordKept found
    exact rightly.letsGo position member old present pod (may.of_recordKept kept)

theorem World.applyEffects_outer (effects : List Effect) :
    ∀ world : World, (∀ effect ∈ effects, effect.isOuter = true) → world.EndsBefore name pod →
      (world.applyEffects effects).EndsBefore name pod := by
  induction effects with
  | nil => exact fun world _ ends => ends
  | cons effect effects induction =>
    intro world outer ends
    refine induction _ (fun later member => outer later (List.mem_cons_of_mem _ member)) ?_
    by_cases own : effect.writtenRack = some name
    · have isOuter := outer effect List.mem_cons_self
      cases effect with
      | deleteStatefulSet rack succeeded =>
        obtain rfl : rack = name := Option.some.inj own
        cases succeeded with
        | false => exact ends
        | true => exact World.endsBefore_deleted
      | createStatefulSet | updateStatefulSet | recreateStatefulSet | orphanStatefulSet =>
        cases isOuter
      | _ => cases own
    · exact World.endsBefore_congr (world.applyEffect_statefulSets_ne own) ends

theorem Ready.finalizing_iff {ready : Pass} (started : Started world.cluster start)
    (isReady : Ready start answers ready) :
    (∃ rack ∈ ready.rackStatus name, Finalizing rack pod) ↔
      ∃ rack ∈ world.rackStatus name, Finalizing rack pod := by
  have flagged := isReady.flagged
  rw [started.status] at flagged
  constructor
  · rintro ⟨rack, found, finalizing⟩
    obtain ⟨old, present, kept⟩ := flagged.fromFlagged.recordKept found
    exact ⟨old, present, finalizing.congr (.ofEq kept.record)⟩
  · rintro ⟨rack, found, finalizing⟩
    rcases flagged name with kept | ⟨old, now, _, present, changed⟩
    · exact ⟨rack, kept.trans found, finalizing⟩
    · obtain rfl : old = rack := Option.some.inj (present.symm.trans found)
      exact ⟨flagUpdateResources now old, changed, finalizing.named, finalizing.status,
        finalizing.running⟩

section

variable (rightly : world.ShrinksRightly platform answers world.cluster.spec.checkDefaults
  world.cluster.status.cassandraRackStatus)

include rightly

theorem Ready.noneWanted {ready : Pass}
    (holds : AllRacks (Finalizes world.EndsBefore) world.cluster.status.cassandraRackStatus)
    (started : Started world.cluster start) (isReady : Ready start answers ready) :
    NoneWanted world ready (ready.looped platform answers) := by
  have flagged := isReady.flagged.fromFlagged
  rw [started.status] at flagged
  have outer := started.outer
  rw [← isReady.effects] at outer
  have quiet : ∀ name pod, ¬ LetsGo name pod ready.effects :=
    fun name pod => LetsGo.not_outer fun effect member => (outer effect member).1
  have unwritten : ready.writes = [] :=
    List.filter_eq_nil_iff.mpr fun effect member => by simp [(outer effect member).2]
  refine reconcileRacks_noneWanted ?_ ?_ quiet unwritten fun name pod cause => ?_
  · rw [isReady.spec.trans started.spec]
    exact rightly.flagged flagged
  · rw [isReady.pdb]
    simp only [pdbRead, started.named.1, started.named.2.1]
  · obtain ⟨rack, found, finalizing⟩ :=
      (isReady.finalizing_iff started).mp (cause.resolve_right (quiet name pod))
    rw [unwritten]
    exact (holds name rack found).waits pod finalizing

/-- After a pass that shrinks rightly no pod is wanted that was waited for or let go. -/
theorem World.pass_noneWanted
    (holds : AllRacks (Finalizes world.EndsBefore) world.cluster.status.cassandraRackStatus)
    (cause : (∃ rack ∈ world.rackStatus name, Finalizing rack pod) ∨
      LetsGo name pod (world.pass platform answers).effects) :
    (world.step platform (.pass answers)).EndsBefore name pod := by
  unfold World.pass at cause
  change (world.applyEffects
    (reconcile platform world.memory world.cluster answers).effects).EndsBefore name pod
  cases reconcile_loopCase platform world.memory world.cluster answers with
  | quiet outer =>
    refine World.applyEffects_outer _ world outer ?_
    obtain ⟨rack, found, finalizing⟩ := cause.resolve_right (LetsGo.not_outer outer)
    exact (holds name rack found).waits pod finalizing
  | loop start ready started isReady last outer effects =>
    rw [effects] at cause ⊢
    -- Behind the loop no StatefulSet is written and no pod let go.
    rw [World.applyEffects_append]
    refine World.applyEffects_outer last _ (fun effect member => (outer effect member).1) ?_
    refine World.endsBefore_congr (congrFun (World.applyEffects_statefulSets _ world world rfl)
      name) (isReady.noneWanted rightly holds started name pod ?_)
    refine cause.imp (isReady.finalizing_iff started).mpr fun lets => ?_
    exact lets.append.resolve_right (LetsGo.not_outer fun effect member =>
      (outer effect member).1)

end

theorem World.step_finalizes (platform : Platform) (world : World) (answers : ReconcileAnswers)
    (rightly : world.ShrinksRightly platform answers world.cluster.spec.checkDefaults
      world.cluster.status.cassandraRackStatus)
    (holds : AllRacks (Finalizes world.EndsBefore) world.cluster.status.cassandraRackStatus) :
    AllRacks (Finalizes (world.step platform (.pass answers)).EndsBefore)
      (world.step platform (.pass answers)).cluster.status.cassandraRackStatus := by
  refine world.pass_finalizes platform answers (fun name rack found => ?_) fun name pod lets => ?_
  · refine ⟨(holds name rack found).single, fun pod finalizing => ?_⟩
    exact World.pass_noneWanted rightly holds (Or.inl ⟨rack, found, finalizing⟩)
  · exact World.pass_noneWanted rightly holds (Or.inr lets)

end Pass

/-! ## Claims that are deleted -/

section Claims

variable {platform : Platform} {answers : RackAnswers} {pass : Pass} {claim : String}
  {rack rack' : CassandraRackStatus}

theorem Finalizing.observed (changes : ObservedChanges spec dcRackName answers rack rack')
    (finalizing : Finalizing rack' pod) : Finalizing rack pod := by
  induction changes with
  | refl => exact finalizing
  | tail _ change induction =>
    refine induction ?_
    rcases change.record_cases with kept | ⟨_, old, record⟩
    · exact finalizing.congr (.ofEq kept.record)
    · have status := finalizing.status
      rw [record] at status
      cases status

/-- The claim of a pod that is waited for. -/
def ClaimWaitedFor (racks : RackStatuses) (claim : String) : Prop :=
  ∃ name, ∃ rack ∈ racks.lookup name, ∃ pod, Finalizing rack pod ∧
    claim = dataPVCName ++ "-" ++ pod

theorem FromDecommission.waitedFor
    (from' : FromDecommission platform answers names rack pass step (.deletePVC claim)) :
    ∃ pod, Finalizing rack pod ∧ claim = dataPVCName ++ "-" ++ pod := by
  cases from' with
  | call sts rack' middle result read changes moves found scaling called new member made =>
    have emitted : ∀ {effects}, .deletePVC claim ∈ middle.effects ++ effects →
        .deletePVC claim ∈ effects :=
      fun member => (List.mem_append.mp member).resolve_left new
    cases called with
    | wait | fault | retry | more => exact absurd member new
    | otherOperation | unknownStatus | start | bypass => simpa using emitted member
    | left podName others mode ongoing pods gone observed =>
      rcases List.mem_append.mp member with passed | written
      · simpa using emitted passed
      · cases updateCassandraStatus_uninvolved written
    | finish podName others effects finalizing pods claims named =>
      have deleted := claims _ (emitted member)
      refine ⟨podName, Finalizing.observed changes ⟨named, finalizing, ?_⟩,
        Effect.deletePVC.inj deleted⟩
      simp [PodLastOperation.running, pods]

theorem reconcileRacks_claims {answers : ReconcileAnswers}
    (distinct : (start.cc.spec.rackPositions.map start.cc.spec.rackNameAt).Nodup)
    (alive : deletesPVCs start.cc = false) (none : ∀ claim, .deletePVC claim ∉ start.effects) :
    ∀ claim, .deletePVC claim ∈ (start.looped platform answers).effects →
      ClaimWaitedFor start.status.cassandraRackStatus claim := by
  refine @reconcileRacks_visits
    (fun pass => ∀ claim, .deletePVC claim ∈ pass.effects →
      ClaimWaitedFor start.status.cassandraRackStatus claim) (fun _ _ => True) platform
    answers.racks start start.cc.spec.rackPositions distinct
    (fun position member pass visiting _ holds => ⟨fun claim deleted => ?_, fun _ _ _ => trivial⟩)
    (fun claim deleted => absurd deleted (none claim)) (fun _ _ => trivial) false
  have iteration := reconcileRackAt_case platform (answers.racks position) position.1 position.2
    pass
  rcases iteration.decommission deleted rfl with old | ⟨deletes, _⟩ | ⟨rack, found, from'⟩
  · exact holds claim old
  · have kept := congrArg CassandraClusterSpec.deletePVC visiting.spec
    change pass.cc.spec.deletePVC = start.cc.spec.deletePVC at kept
    rw [deletesPVCs, visiting.metadata, kept] at deletes
    exact absurd (alive.symm.trans deletes) (by simp)
  · rw [visiting.rackNameAt, visiting.rack] at found
    exact ⟨_, rack, found, from'.waitedFor⟩

/-- While the cluster lives, a pass deletes claims of pods only that were waited for. -/
theorem World.pass_claims {answers : ReconcileAnswers}
    (distinct : (world.cluster.spec.checkDefaults.rackPositions.map
      world.cluster.spec.checkDefaults.rackNameAt).Nodup)
    (alive : deletesPVCs world.cluster.defaulted = false)
    (deleted : .deletePVC claim ∈ (world.pass platform answers).effects) :
    ClaimWaitedFor world.cluster.status.cassandraRackStatus claim := by
  unfold World.pass at deleted
  cases reconcile_loopCase platform world.memory world.cluster answers with
  | quiet outer => cases outer _ deleted
  | loop start ready started isReady last outer effects =>
    have flagged := isReady.flagged.fromFlagged
    rw [started.status] at flagged
    have spec : ready.cc.spec = world.cluster.defaulted.spec := isReady.spec.trans started.spec
    have living : deletesPVCs ready.cc = false := by
      rw [← alive, deletesPVCs, deletesPVCs, spec, isReady.metadata, started.named.2.2]
      rfl
    have none : ∀ claim, .deletePVC claim ∉ ready.effects := by
      intro claim member
      rw [isReady.effects] at member
      cases (started.outer _ member).1
    rw [effects] at deleted
    rcases List.mem_append.mp deleted with inLoop | after
    · obtain ⟨name, rack, found, pod, finalizing, named⟩ := reconcileRacks_claims (by
        rw [spec]
        exact distinct) living none claim inLoop
      obtain ⟨old, present, kept⟩ := flagged.recordKept found
      exact ⟨name, old, present, pod, finalizing.congr (.ofEq kept.record), named⟩
    · cases (outer _ after).1

end Claims

/-! ## Runs -/

def World.ShrinksIn (platform : Platform) (world : World) : Event → Prop
  | .pass answers => world.ShrinksRightly platform answers world.cluster.spec.checkDefaults
      world.cluster.status.cassandraRackStatus
  | _ => True

/-- When every pass of a run shrinks rightly, a StatefulSet wants no pod that its rack waits
for, and no claim is deleted of a pod that its StatefulSet wants. -/
theorem finalizing_has_shrunk (platform : Platform) (start : World)
    (fresh : start.cluster.status.cassandraRackStatus = ∅) (events : List Event)
    (rightly : Runs.Meets (World.step platform) (World.ShrinksIn platform) start events) :
    let world := Runs.run (World.step platform) start events
    (∀ name, ∀ rack ∈ world.rackStatus name, ∀ pod, Finalizing rack pod →
      world.EndsBefore name pod) ∧
      ∀ answers claim, (world.cluster.spec.checkDefaults.rackPositions.map
          world.cluster.spec.checkDefaults.rackNameAt).Nodup →
        deletesPVCs world.cluster.defaulted = false →
        .deletePVC claim ∈ (world.pass platform answers).effects →
        ∃ name, ∃ rack ∈ world.rackStatus name, ∃ pod, Finalizing rack pod ∧
          claim = dataPVCName ++ "-" ++ pod ∧ world.EndsBefore name pod := by
  intro world
  have holds : AllRacks (Finalizes world.EndsBefore)
      world.cluster.status.cassandraRackStatus := by
    refine @Runs.Meets.keeps _ _ _ _ _ (fun world => AllRacks (Finalizes world.EndsBefore)
      world.cluster.status.cassandraRackStatus) events rightly (fun name rack found => ?_)
      fun world event holds rightly => ?_
    · rw [fresh] at found
      simp at found
    · cases event with
      | edit metadata spec => exact holds
      | restart => exact holds
      | pass answers => exact world.step_finalizes platform answers rightly holds
  refine ⟨fun name rack found => (holds name rack found).waits, ?_⟩
  intro answers claim distinct alive deleted
  obtain ⟨name, rack, found, pod, finalizing, named⟩ := World.pass_claims distinct alive deleted
  exact ⟨name, rack, found, pod, finalizing, named, (holds name rack found).waits pod finalizing⟩

/-! ## A gate that is closed -/

/-- The record of the operation on the rack of `oneRackWorld`. -/
def World.oneRecord (world : World) : Option PodLastOperation :=
  (world.rackStatus "dc1-rack1").map fun rack => rack.podLastOperation

theorem World.mem_oneRecord (found : rack ∈ world.rackStatus "dc1-rack1") :
    rack.podLastOperation ∈ world.oneRecord :=
  Option.mem_map_of_mem _ found

structure World.OneRack (world : World) : Prop where
  positions : world.cluster.spec.checkDefaults.rackPositions = [(0, 0)]
  name : world.cluster.spec.checkDefaults.rackNameAt (0, 0) = "dc1-rack1"

theorem World.OneRack.shrinksIn {answers : ReconcileAnswers} (oneRack : world.OneRack)
    (free : hasNoPodDisruption (pdbRead world.cluster answers.pdb).stored = true)
    (undisturbed : (answers.racks (0, 0)).Undisturbed)
    (handled : ∀ rack ∈ world.rackStatus "dc1-rack1", ∀ pod, ¬ Finalizing rack pod ∧ ((answers.racks
      (0, 0)).MayLetGo rack pod → ∃ stored, (answers.racks (0, 0)).Shrinks seededPlatform world
      (world.cluster.spec.checkDefaults.getNodesPerRacks "dc1-rack1") "dc1-rack1" pod stored)) :
    world.ShrinksIn seededPlatform (.pass answers) := by
  obtain ⟨positions, name⟩ := oneRack
  refine ⟨by simp [positions], fun position member rack found pod finalizing => ?_,
    fun position member rack found pod may => ?_⟩
  · rw [positions, List.mem_singleton] at member
    subst member
    rw [name] at found
    exact absurd finalizing (handled rack found pod).1
  · rw [positions, List.mem_singleton] at member
    subst member
    rw [name] at found ⊢
    refine ⟨(handled rack found pod).2 may, free, fun other known => ?_⟩
    rw [positions, List.mem_singleton] at known
    exact known ▸ undisturbed

theorem World.OneRack.idle {now : Nat} {decommission : DecommissionAnswers → DecommissionAnswers}
    (oneRack : world.OneRack)
    (idle : ∀ record ∈ world.oneRecord, record.status ∉ [ActionStatus.finalizing, .ongoing])
    (scheduled : ∀ pods ∈ (decommission (healthyAnswers now (.ok
      oneRackStatefulSet)).handle.decommission).podsList.toOption, ∀ lastPod ∈ getLastOrFirstPodItem
      pods true, lastPod.phase ≠ .pending) :
    world.ShrinksIn seededPlatform (.pass (oneRackPass now decommission)) := by
  refine oneRack.shrinksIn rfl ⟨rfl, rfl⟩ fun rack found pod => ?_
  have isIdle := idle _ (World.mem_oneRecord found)
  refine ⟨fun finalizing => ?_, fun may => ?_⟩
  · simp [finalizing.status] at isIdle
  · cases may with
    | left mode gone observed scaling ongoing running => simp [ongoing] at isIdle
    | unschedulable lists pending =>
      obtain ⟨pods, lastPod, listed, last, _⟩ := lists
      refine absurd (pending pods lastPod listed last).1 (scheduled pods ?_ lastPod last)
      exact congrArg Except.toOption listed

/-- StatefulSets with a bootstrap container each can be fitted. -/
theorem keepStoredSeeds_of_bootstrap {stored sts : StatefulSet} {bootstrap old : Container}
    (own : getBootstrapContainerFromStatefulset sts = some bootstrap)
    (older : getBootstrapContainerFromStatefulset stored = some old) :
    ∃ kept, keepStoredSeeds stored sts = some kept ∧
      kept.spec.volumeClaimTemplates = sts.spec.volumeClaimTemplates := by
  unfold keepStoredSeeds
  rw [own, older]
  dsimp only
  split
  · exact ⟨sts, rfl, rfl⟩
  · exact ⟨_, rfl, rfl⟩

theorem oneRackStatefulSet_resizes (dcRackName : String) :
    seededPlatform.Resizes dcRackName oneRackStatefulSet := by
  refine ⟨fun cc status rack => ?_, fun sts equal => ?_⟩
  · obtain ⟨sts, generated, claims, bootstrap, own⟩ : ∃ sts,
        generateCassandraStatefulSet seededPlatform cc status dcRackName = some sts ∧
        sts.spec.volumeClaimTemplates = [] ∧ ∃ bootstrap, getBootstrapContainerFromStatefulset
          (withStored oneRackStatefulSet sts) = some bootstrap :=
      ⟨_, rfl, rfl, _, rfl⟩
    obtain ⟨kept, keeps, kept'⟩ := @keepStoredSeeds_of_bootstrap oneRackStatefulSet _ _ _ own rfl
    rw [generated, Option.bind_some, wantedStatefulSet, keeps, Option.bind_some]
    unfold revertAnyStorageUpsize
    split
    · rfl
    · rw [withReplicas, kept', withStored, claims]
      rfl
  · unfold statefulSetsAreEqual at equal
    split at equal
    · cases equal
    split at equal
    · cases equal
    have same := congrArg (fun sts : StatefulSet => sts.spec.replicas) (of_decide_eq_true equal)
    exact same.symm

/-- The decommission of the last pod has been started. -/
def oneLeaving : World :=
  oneToGo.step seededPlatform (.pass (oneRackPass 300 (lastPodIn .normal)))

/-- The last pod has left the ring, and one disruption is allowed. -/
def oneLeaves : Event := .pass (oneRackPass 400 (lastPodIn .decommissioned))

theorem oneLeaving_shrinksIn : oneLeaving.ShrinksIn seededPlatform oneLeaves := by
  -- the world is evaluated once
  obtain ⟨ongoing, current, nodes, positions, name⟩ :
      oneLeaving.oneRecord.map (fun record => (record.status, record.running)) =
          some (.ongoing, ["demo-dc1-rack1-1"]) ∧
        oneLeaving.statefulSets "dc1-rack1" = some oneRackStatefulSet ∧
        oneLeaving.cluster.spec.checkDefaults.getNodesPerRacks "dc1-rack1" = 1 ∧
        oneLeaving.cluster.spec.checkDefaults.rackPositions = [(0, 0)] ∧
        oneLeaving.cluster.spec.checkDefaults.rackNameAt (0, 0) = "dc1-rack1" := by
    decide +kernel
  have scheduled : ∀ lastPod ∈ getLastOrFirstPodItem (firstPods "dc1-rack1" 2) true,
      lastPod.phase ≠ .pending := by decide
  refine World.OneRack.shrinksIn ⟨positions, name⟩ rfl ⟨rfl, rfl⟩ ?_
  intro rack found pod
  rw [Option.mem_def.mp (World.mem_oneRecord found), Option.map_some, Option.some.injEq,
    Prod.mk.injEq] at ongoing
  refine ⟨fun finalizing => ?_, fun may => ⟨oneRackStatefulSet, ?_⟩⟩
  · simp [finalizing.status] at ongoing
  · cases may with
    | left mode gone observed scaling _ running =>
      rw [ongoing.2, List.mem_singleton] at running
      subst running
      rw [nodes]
      exact ⟨by decide, rfl, current, by decide, ⟨by decide, by decide, by decide⟩, rfl,
        oneRackStatefulSet_resizes _⟩
    | unschedulable lists pending =>
      obtain ⟨pods, lastPod, listed, last, _⟩ := lists
      have isPending := (pending pods lastPod listed last).1
      cases listed
      exact absurd isPending (scheduled lastPod last)

theorem oneToGo_shrinksRightly :
    Runs.Meets (World.step seededPlatform) (World.ShrinksIn seededPlatform) stockedWorld
      (runningThen (oneRackSpec "cassandra:4" 1) ++
        [.pass (oneRackPass 300 (lastPodIn .normal)), oneLeaves]) := by
  have idle := @World.OneRack.idle
  exact ⟨idle ⟨by decide +kernel, by decide +kernel⟩ (by decide +kernel) (by decide),
    idle ⟨by decide +kernel, by decide +kernel⟩ (by decide +kernel) (by decide), trivial,
    idle ⟨by decide +kernel, by decide +kernel⟩ (by decide +kernel) (by decide),
    oneLeaving_shrinksIn, trivial⟩

theorem oneLeaving_has_shrunk :
    let world := Runs.run (World.step seededPlatform) stockedWorld
      (runningThen (oneRackSpec "cassandra:4" 1) ++
        [.pass (oneRackPass 300 (lastPodIn .normal)), oneLeaves])
    world.oneRecord.map (fun record => (record.name, record.status, record.running)) =
        some (.decommission, .finalizing, ["demo-dc1-rack1-1"]) ∧
      (world.statefulSets "dc1-rack1").map (fun stored => stored.spec.replicas) = some 1 ∧
      ∀ name, ∀ rack ∈ world.rackStatus name, ∀ pod, Finalizing rack pod →
        world.EndsBefore name pod := by
  intro world
  obtain ⟨waits, shrunk⟩ :
      world.oneRecord.map (fun record => (record.name, record.status, record.running)) =
          some (.decommission, .finalizing, ["demo-dc1-rack1-1"]) ∧
        (world.statefulSets "dc1-rack1").map (fun stored => stored.spec.replicas) = some 1 := by
    decide +kernel
  exact ⟨waits, shrunk,
    (finalizing_has_shrunk seededPlatform stockedWorld rfl _ oneToGo_shrinksRightly).1⟩

/-- The pass in which the pod is let go finds the budget used up. -/
def disruptedPass : ReconcileAnswers :=
  { oneRackPass 400 (lastPodIn .decommissioned) with
    pdb := .ok { name := "demo", ns := "default", maxUnavailable := some 1,
                 disruptionsAllowed := 0, expectedPods := 2 } }

def Effect.deletedClaim : Effect → Option String
  | .deletePVC claim => some claim
  | _ => none

/-- The rack waits for a pod that the StatefulSet goes on to want, and once the pod is missed
in some pass, its claim is deleted. -/
theorem disrupted_waits_unshrunk :
    let world := Runs.run (World.step seededPlatform) stockedWorld
      (runningThen (oneRackSpec "cassandra:4" 1) ++
        [.pass (oneRackPass 300 (lastPodIn .normal)), .pass disruptedPass])
    stockedWorld.cluster.status.cassandraRackStatus = ∅ ∧
      world.oneRecord.map (fun record => (record.name, record.status, record.running)) =
        some (.decommission, .finalizing, ["demo-dc1-rack1-1"]) ∧
      ¬ world.EndsBefore "dc1-rack1" "demo-dc1-rack1-1" ∧
      (world.pass seededPlatform (oneRackPass 500 id)).effects.filterMap Effect.deletedClaim =
        ["data-demo-dc1-rack1-1"] := by
  intro world
  obtain ⟨waits, wanted, deletes⟩ :
      world.oneRecord.map (fun record => (record.name, record.status, record.running)) =
          some (.decommission, .finalizing, ["demo-dc1-rack1-1"]) ∧
        world.statefulSets "dc1-rack1" = some oneRackStatefulSet ∧
        (world.pass seededPlatform (oneRackPass 500 id)).effects.filterMap
          Effect.deletedClaim = ["data-demo-dc1-rack1-1"] := by
    decide +kernel
  refine ⟨rfl, waits, fun ends => ?_, deletes⟩
  exact absurd (ends oneRackStatefulSet wanted) (by decide)

end Casskop
