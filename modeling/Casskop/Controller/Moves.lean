import Mathlib.Logic.Relation
import Casskop.Controller.Decommission

/-!
# The moves of a pass on one rack

Handling a rack is a chain of elementary moves around at most one StatefulSet
write.  A move on the status of the rack is one of the assignments of the source;
the other moves write the object, label pods, or touch fields that no rack status
depends on.  The parts of an iteration differ in the assignments they may make.
-/

namespace Casskop

/-! ## Changes of a rack status -/

section Changes

variable (spec : CassandraClusterSpec) (dcRackName : String) (answers : RackAnswers)

/-- The actions detectors set with `setAction`. -/
def detectedActions : List (ActionName × ActionStatus) :=
  [(.updateConfigMap, .toDo), (.updateDockerImage, .toDo), (.scaleUp, .toDo),
    (.updateSeedList, .configuring), (.rollingRestart, .toDo)]

/-- A new action may replace the one of the rack. -/
def MayStart (rack : CassandraRackStatus) : Prop :=
  spec.unlockNextOperation = true ∨ rack.cassandraLastAction.status ≠ .ongoing

/-- Phase and action as they follow from what was read. -/
inductive ObservedChange : CassandraRackStatus → CassandraRackStatus → Prop where
  | phase (rack : CassandraRackStatus) (phase : Phase)
      (started : phase = .pending ∨ phase = .running) :
      ObservedChange rack { rack with phase := phase }
  | initialized (rack : CassandraRackStatus) (initializing : rack.phase = .initializing) :
      ObservedChange rack (endAction answers.now rack)
  | abortInitializing (rack : CassandraRackStatus) (sts : StatefulSet)
      (read : answers.statefulSet = .ok sts) (initializing : rack.phase = .initializing)
      (empty : spec.getNodesPerRacks dcRackName ≤ 0) :
      ObservedChange rack (setDecommissionStatus answers.now rack)
  | ended (rack : CassandraRackStatus)
      (running : rack.cassandraLastAction.status = .ongoing ∨
        rack.cassandraLastAction.status = .continue)
      (other : rack.cassandraLastAction.name ≠ .storageUpsize) :
      ObservedChange rack (endAction answers.now rack)
  | detected (rack : CassandraRackStatus) {action : ActionName × ActionStatus}
      (free : MayStart spec rack) (known : action ∈ detectedActions) :
      ObservedChange rack (setAction rack action.1 action.2)
  | scaleDown (rack : CassandraRackStatus) (sts : StatefulSet) (free : MayStart spec rack)
      (read : answers.statefulSet = .ok sts)
      (fewer : spec.getNodesPerRacks dcRackName < sts.spec.replicas) :
      ObservedChange rack
        (setAction (setDecommissionStatus answers.now rack) .scaleDown .toDo)
  | upsize (rack : CassandraRackStatus) (free : MayStart spec rack) :
      ObservedChange rack (startUpsizeAction answers.now rack)
  | revisionChanged (rack : CassandraRackStatus) (free : MayStart spec rack) :
      ObservedChange rack
        { rack with
          cassandraLastAction :=
            { name := .updateStatefulSet, status := .ongoing
              startTime := some answers.now, endTime := none } }
  | startResources (rack : CassandraRackStatus) :
      ObservedChange rack (startUpdateResources answers.now rack)

abbrev ObservedChanges : CassandraRackStatus → CassandraRackStatus → Prop :=
  Relation.ReflTransGen (ObservedChange spec dcRackName answers)

/-- What `ensureDecommission` does to a rack that is scaling down. -/
inductive DecommissionChange : CassandraRackStatus → CassandraRackStatus → Prop where
  | start (rack : CassandraRackStatus) (pods : List Pod) (lastPod : Pod)
      (scaling : weAreScalingDown rack = true)
      (listed : answers.handle.decommission.podsList = .ok pods)
      (last : getLastOrFirstPodItem pods true = some lastPod) :
      DecommissionChange rack (startDecommission lastPod.name rack)
  | bypass (rack : CassandraRackStatus) (pods : List Pod) (lastPod : Pod)
      (scaling : weAreScalingDown rack = true)
      (listed : answers.handle.decommission.podsList = .ok pods)
      (last : getLastOrFirstPodItem pods true = some lastPod) :
      DecommissionChange rack (bypassDecommission lastPod.name rack)
  | retry (rack : CassandraRackStatus) (scaling : weAreScalingDown rack = true)
      (ongoing : rack.podLastOperation.status = .ongoing) :
      DecommissionChange rack
        (setOperation rack fun operation => { operation with status := .toDo })
  | left (rack : CassandraRackStatus) (scaling : weAreScalingDown rack = true)
      (ongoing : rack.podLastOperation.status = .ongoing) :
      DecommissionChange rack
        (setOperation rack fun operation => { operation with status := .finalizing })
  | finish (rack : CassandraRackStatus) (podName : String) (ready : Bool)
      (scaling : weAreScalingDown rack = true)
      (finalizing : rack.podLastOperation.status = .finalizing) :
      DecommissionChange rack
        (setOperation rack fun operation =>
          { operation with
            status := if ready then .done else .continue
            podsOK := some [podName]
            endTime := some answers.now
            pods := some [] })
  | more (rack : CassandraRackStatus) (scaling : weAreScalingDown rack = true)
      (done : rack.podLastOperation.status = .done) :
      DecommissionChange rack (setActionStatus rack .continue)

/-- Operations on the pods of a rack that is not scaling down. -/
inductive OperationChange : CassandraRackStatus → CassandraRackStatus → Prop where
  | operate (rack : CassandraRackStatus) (operation : PodLastOperation)
      (idle : weAreScalingDown rack = false)
      (status : operation.status = .ongoing ∨ operation.status = .done) :
      OperationChange rack { rack with podLastOperation := operation }

inductive UpdateChange : CassandraRackStatus → CassandraRackStatus → Prop where
  | started (rack : CassandraRackStatus)
      (asked : updatesSeedList rack = true ∨ restarts rack = true) :
      UpdateChange rack (startAction answers.now rack)
  | written (rack : CassandraRackStatus) (noCheckStsAreEqual : Bool) :
      UpdateChange rack (actionOnWrite answers.now noCheckStsAreEqual rack)

inductive UpsizeChange : CassandraRackStatus → CassandraRackStatus → Prop where
  | pending (rack : CassandraRackStatus) :
      UpsizeChange rack { rack with phase := .pending }
  | saved (rack : CassandraRackStatus) (sts : StatefulSet) (phase : rack.phase = .pending)
      (upsizing : isStorageUpsizeStarted rack = true)
      (unsaved : rack.statefulSetSnapshotBeforeStorageResize = none) :
      UpsizeChange rack
        { rack with
          statefulSetSnapshotBeforeStorageResize := some (prepareStatefulSetSnapshot sts) }
  | finalized (rack : CassandraRackStatus)
      (upsizing : isStorageUpsizeStarted rack = true) :
      UpsizeChange rack (finalizeUpsizeAction answers.now rack)

/-- The changes made while one rack is handled, apart from a storage upsize. -/
inductive OrdinaryChange (rack rack' : CassandraRackStatus) : Prop where
  | observed (change : ObservedChange spec dcRackName answers rack rack')
  | decommission (change : DecommissionChange answers rack rack')
  | operation (change : OperationChange rack rack')
  | update (change : UpdateChange answers rack rack')

/-- The changes made while one rack is handled. -/
inductive RackChange (rack rack' : CassandraRackStatus) : Prop where
  | ordinary (change : OrdinaryChange spec dcRackName answers rack rack')
  | upsize (change : UpsizeChange answers rack rack')

end Changes

/-! ## The parts of an iteration -/

/-- Effects that write neither a StatefulSet nor the CassandraCluster and take nothing
from the channel. -/
def Effect.isLocal : Effect → Bool
  | .createStatefulSet .. | .updateStatefulSet .. => false
  | .recreateStatefulSet .. | .deleteStatefulSet .. | .orphanStatefulSet .. => false
  | .putCluster .. | .updateCluster .. | .updateObject .. | .updateClusterStatus .. => false
  | .finalizeOperation .. => false
  | _ => true

/-- The rack of the goroutine that an effect starts. -/
def Effect.spawnedRack : Effect → Option String
  | .startOperation rack .. | .monitorOperation rack .. => some rack
  | _ => none

/-- Local effects that start goroutines for one rack only. -/
def Effect.isLocalTo (dcRackName : String) (effect : Effect) : Bool :=
  effect.isLocal && effect.spawnedRack.all (· == dcRackName)

/-- Local effects that start no goroutine. -/
def Effect.isQuiet (effect : Effect) : Bool := effect.isLocal && effect.spawnedRack.isNone

/-- Quiet effects that are not steps of a decommission. -/
def Effect.isPlain : Effect → Bool
  | .startDecommission .. | .passDecommission .. | .deletePVC .. => false
  | effect => effect.isQuiet

/-- The effects of operations on the pods of a rack. -/
def Effect.isOperation (dcRackName : String) (effect : Effect) : Bool :=
  effect.isPlain || effect.spawnedRack == some dcRackName

section Kinds

variable {dcRackName : String} {effect : Effect}

theorem Effect.isLocal_of_isLocalTo (isLocalTo : effect.isLocalTo dcRackName = true) :
    effect.isLocal = true :=
  (Bool.and_eq_true_iff.mp isLocalTo).1

theorem Effect.isLocal_of_isQuiet (quiet : effect.isQuiet = true) : effect.isLocal = true :=
  (Bool.and_eq_true_iff.mp quiet).1

theorem Effect.isQuiet_of_isPlain (plain : effect.isPlain = true) : effect.isQuiet = true := by
  cases effect <;> first | rfl | exact plain

theorem Effect.isLocal_of_isPlain (plain : effect.isPlain = true) : effect.isLocal = true :=
  isLocal_of_isQuiet (isQuiet_of_isPlain plain)

theorem Effect.isLocalTo_of_isQuiet (quiet : effect.isQuiet = true) :
    effect.isLocalTo dcRackName = true := by
  obtain ⟨isLocal, none⟩ := Bool.and_eq_true_iff.mp quiet
  unfold isLocalTo
  rw [isLocal, Option.isNone_iff_eq_none.mp none]
  rfl

theorem Effect.isLocalTo_of_isOperation (operation : effect.isOperation dcRackName = true) :
    effect.isLocalTo dcRackName = true := by
  rcases Bool.or_eq_true_iff.mp operation with plain | own
  · exact isLocalTo_of_isQuiet (isQuiet_of_isPlain plain)
  · cases effect with
    | startOperation | monitorOperation =>
      rw [beq_iff_eq, spawnedRack, Option.some.injEq] at own
      rw [own]
      simp [isLocalTo, isLocal, spawnedRack]
    | _ => simp [spawnedRack] at own

end Kinds

/-- What a part of the iteration may do by itself. -/
structure Part where
  change : CassandraRackStatus → CassandraRackStatus → Prop
  emits : Effect → Bool
  isLocal : ∀ {effect}, emits effect = true → effect.isLocal = true
  /-- It may write the status and take results of operations. -/
  records : Bool

namespace Part

variable (spec : CassandraClusterSpec) (dcRackName : String) (answers : RackAnswers)

def observing : Part :=
  ⟨ObservedChange spec dcRackName answers, Effect.isPlain, Effect.isLocal_of_isPlain, false⟩

def decommissioning : Part :=
  ⟨DecommissionChange answers, Effect.isQuiet, Effect.isLocal_of_isQuiet, true⟩

def operating : Part :=
  ⟨OperationChange, Effect.isOperation dcRackName,
    fun operation => Effect.isLocal_of_isLocalTo (Effect.isLocalTo_of_isOperation operation), true⟩

def updating : Part :=
  ⟨UpdateChange answers, Effect.isPlain, Effect.isLocal_of_isPlain, false⟩

def upsizing : Part :=
  ⟨UpsizeChange answers, Effect.isPlain, Effect.isLocal_of_isPlain, false⟩

def ordinary : Part :=
  ⟨OrdinaryChange spec dcRackName answers, Effect.isLocalTo dcRackName,
    Effect.isLocal_of_isLocalTo, true⟩

def handling : Part :=
  ⟨RackChange spec dcRackName answers, Effect.isLocalTo dcRackName,
    Effect.isLocal_of_isLocalTo, true⟩

/-- One part may do all that the other may. -/
structure Within (part whole : Part) : Prop where
  change : ∀ {rack rack'}, part.change rack rack' → whole.change rack rack'
  emits : ∀ {effect}, part.emits effect = true → whole.emits effect = true
  records : part.records = true → whole.records = true

variable {spec dcRackName answers}

theorem observing_within :
    (observing spec dcRackName answers).Within (ordinary spec dcRackName answers) :=
  ⟨.observed, fun plain => Effect.isLocalTo_of_isQuiet (Effect.isQuiet_of_isPlain plain),
    fun _ => rfl⟩

theorem decommissioning_within :
    (decommissioning answers).Within (ordinary spec dcRackName answers) :=
  ⟨.decommission, Effect.isLocalTo_of_isQuiet, id⟩

theorem operating_within : (operating dcRackName).Within (ordinary spec dcRackName answers) :=
  ⟨.operation, Effect.isLocalTo_of_isOperation, id⟩

theorem updating_within : (updating answers).Within (ordinary spec dcRackName answers) :=
  ⟨.update, fun plain => Effect.isLocalTo_of_isQuiet (Effect.isQuiet_of_isPlain plain),
    fun _ => rfl⟩

theorem upsizing_within : (upsizing answers).Within (handling spec dcRackName answers) :=
  ⟨.upsize, fun plain => Effect.isLocalTo_of_isQuiet (Effect.isQuiet_of_isPlain plain),
    fun _ => rfl⟩

theorem ordinary_within :
    (ordinary spec dcRackName answers).Within (handling spec dcRackName answers) :=
  ⟨.ordinary, id, id⟩

end Part

/-! ## Moves -/

section Moves

variable (part : Part) (dcRackName : String) (answers : RackAnswers)

inductive Move : Pass → Pass → Prop where
  | init {pass : Pass} (absent : pass.rackStatus dcRackName = none) :
      Move pass (pass.setRackStatus dcRackName initialRackStatus)
  | rack {pass : Pass} {rack rack' : CassandraRackStatus}
      (found : pass.rackStatus dcRackName = some rack)
      (changes : Relation.ReflTransGen part.change rack rack') :
      Move pass (pass.setRackStatus dcRackName rack')
  | emit {pass : Pass} {effect : Effect} (emits : part.emits effect = true) :
      Move pass (pass.emit [effect])
  | statusWrite {pass : Pass} (answer : WriteAnswer) (records : part.records = true) :
      Move pass (pass.updateCassandraStatus answer)
  | finalize {pass : Pass} (op : FinalizedOp) (attempts : List FinalizeAttempt)
      (known : (op, attempts) ∈ answers.handle.operations.channel)
      (records : part.records = true) :
      Move pass (finalizeOperation pass op attempts).pass
  | pdb {pass : Pass} {read : PdbRead}
      (known : answers.leftover.beforeDetection = some read ∨
        answers.leftover.beforeWrite = some read) :
      Move pass { pass with storedPdb := read.stored }
  | memory {pass pass' : Pass}
      (status : pass'.status.cassandraRackStatus = pass.status.cassandraRackStatus)
      (cluster : pass'.status.cluster = pass.status.cluster)
      (object : pass'.cc.status = pass.cc.status ∧ pass'.cc.metadata = pass.cc.metadata)
      (spec : pass'.cc.spec.settled = pass.cc.spec.settled)
      (unlock : pass'.cc.spec.unlockNextOperation = true →
        pass.cc.spec.unlockNextOperation = true)
      (kept : pass'.storedPdb = pass.storedPdb ∧ pass'.effects = pass.effects)
      (read : pass'.cc.resourceVersion = pass.cc.resourceVersion ∧
        pass'.cc.annotation = pass.cc.annotation) :
      Move pass pass'

abbrev Moves : Pass → Pass → Prop := Relation.ReflTransGen (Move part dcRackName answers)

end Moves

namespace Moves

variable {part whole : Part} {dcRackName : String} {answers : RackAnswers}
  {before after : Pass}

variable (moves : Moves part dcRackName answers before after)

include moves

theorem rack {rack rack' : CassandraRackStatus} (found : after.rackStatus dcRackName = some rack)
    (changes : Relation.ReflTransGen part.change rack rack') :
    Moves part dcRackName answers before (after.setRackStatus dcRackName rack') :=
  moves.tail (.rack found changes)

theorem emit {effects : List Effect} (emits : ∀ effect ∈ effects, part.emits effect = true) :
    Moves part dcRackName answers before (after.emit effects) := by
  induction effects generalizing after with
  | nil => simpa using moves
  | cons effect effects induction =>
    have first : Moves part dcRackName answers before (after.emit [effect]) :=
      moves.tail (.emit (emits effect List.mem_cons_self))
    have rest := induction first fun other member =>
      emits other (List.mem_cons_of_mem _ member)
    have same : (after.emit [effect]).emit effects = after.emit (effect :: effects) := by
      simp [Pass.emit]
    rwa [same] at rest

theorem statusWrite (answer : WriteAnswer) (records : part.records = true) :
    Moves part dcRackName answers before (after.updateCassandraStatus answer) :=
  moves.tail (.statusWrite answer records)

theorem within (within : part.Within whole) : Moves whole dcRackName answers before after := by
  refine Relation.ReflTransGen.mono (fun before after move => ?_) before after moves
  cases move with
  | init absent => exact .init absent
  | rack found changes =>
    exact .rack found (Relation.ReflTransGen.mono (fun _ _ => within.change) _ _ changes)
  | emit emits => exact .emit (within.emits emits)
  | statusWrite answer records => exact .statusWrite answer (within.records records)
  | finalize op attempts known records =>
    exact .finalize op attempts known (within.records records)
  | pdb known => exact .pdb known
  | memory status cluster object spec unlock kept read =>
    exact .memory status cluster object spec unlock kept read

end Moves

/-! ## Phase and next action -/

section Observe

variable {spec : CassandraClusterSpec} {dcRackName : String} {answers : RackAnswers}

private theorem phaseFromReadiness_changes (sts : StatefulSet) (rack : CassandraRackStatus) :
    ObservedChanges spec dcRackName answers rack (phaseFromReadiness sts rack) := by
  unfold phaseFromReadiness
  split
  · exact .single (.phase rack .pending (Or.inl rfl))
  · split
    · exact .single (.phase rack .running (Or.inr rfl))
    · exact .refl

theorem updateCassandraRackStatusPhase_changes {sts : StatefulSet}
    {rack rack' : CassandraRackStatus} {pods : Except ApiError (List Pod)}
    (read : answers.statefulSet = .ok sts)
    (updated : updateCassandraRackStatusPhase answers.now spec dcRackName sts rack pods =
      .updated rack') :
    ObservedChanges spec dcRackName answers rack rack' := by
  unfold updateCassandraRackStatusPhase at updated
  split at updated
  · rename_i initializing
    dsimp only at updated
    split at updated
    · rename_i empty
      cases updated
      exact .single (.abortInitializing rack sts read initializing empty)
    · split at updated
      · cases updated
        exact .refl
      · split at updated
        · cases updated
          exact .refl
        · split at updated
          · cases updated
            exact .refl
          · split at updated
            · cases updated
            · cases updated
              refine .trans ?_ (phaseFromReadiness_changes sts _)
              split
              · exact .tail (.single (.initialized rack initializing))
                  (.phase (endAction answers.now rack) .running (Or.inr rfl))
              · exact .refl
  · cases updated
    exact phaseFromReadiness_changes sts rack

theorem addPodOperationLabels_plain (pods : Except ApiError (List Pod))
    (labels : List (String × String)) :
    ∀ effect ∈ addPodOperationLabels pods labels, effect.isPlain = true := by
  intro effect member
  cases pods with
  | error error => simp [addPodOperationLabels] at member
  | ok pods =>
    simp only [addPodOperationLabels, List.mem_map] at member
    obtain ⟨pod, _, rfl⟩ := member
    rfl

/-- An ended action was running and no storage upsize, and only pods get labelled for
it. -/
theorem updateStatusIfActionEnded_ended {cc : CassandraCluster} {sts : StatefulSet}
    {rack rack' : CassandraRackStatus} {ended : EndAnswers} {effects : List Effect}
    (result : updateStatusIfActionEnded answers.now cc dcRackName sts rack ended =
      .ended rack' effects) :
    (rack.cassandraLastAction.status = .ongoing ∨
        rack.cassandraLastAction.status = .continue) ∧
      rack.cassandraLastAction.name ≠ .storageUpsize ∧
      rack' = endAction answers.now rack ∧
      ∀ effect ∈ effects, effect.isPlain = true := by
  unfold updateStatusIfActionEnded at result
  dsimp only at result
  split at result
  · rename_i running
    refine ⟨running, fun upsizing => ?_, ?_⟩
    · rw [upsizing] at result
      cases result
    split at result
    · split at result
      · unfold scaleUpEnded at result
        repeat' split at result
        all_goals cases result
        all_goals exact ⟨rfl, addPodOperationLabels_plain _ _⟩
      · cases result
    all_goals
      repeat' split at result
      all_goals cases result
      all_goals exact ⟨rfl, by simp⟩
  · cases result

theorem updateStatusIfScaling_changes {sts : StatefulSet} {rack rack' : CassandraRackStatus}
    (free : MayStart spec rack) (read : answers.statefulSet = .ok sts)
    (scaled : updateStatusIfScaling answers.now spec dcRackName sts rack = some rack') :
    ObservedChange spec dcRackName answers rack rack' := by
  unfold updateStatusIfScaling at scaled
  dsimp only at scaled
  split at scaled
  · cases scaled
  · split at scaled
    · cases scaled
      have known : (ActionName.scaleUp, ActionStatus.toDo) ∈ detectedActions := by
        simp [detectedActions]
      exact .detected rack free known
    · rename_i different notMore
      cases scaled
      exact .scaleDown rack sts free read (by omega)

theorem detectNewAction_changes (platform : Platform) (pass : Pass) (dc rack : Nat)
    {sts : StatefulSet} (rackStatus : CassandraRackStatus)
    (free : MayStart pass.cc.spec rackStatus) (read : answers.statefulSet = .ok sts) :
    let next := detectNewAction platform answers.now pass dc rack sts rackStatus
    ObservedChanges pass.cc.spec (pass.cc.spec.completeRackName dc rack).dcRackName answers
        rackStatus next.rack ∧
      next.effects = [] ∧ next.fault = false ∧
      next.spec.settled = pass.cc.spec.settled ∧
      next.spec.unlockNextOperation = pass.cc.spec.unlockNextOperation := by
  have byAction : ∀ action ∈ detectedActions,
      ObservedChanges pass.cc.spec (pass.cc.spec.completeRackName dc rack).dcRackName answers
        rackStatus (setAction rackStatus action.1 action.2) :=
    fun action known => .single (.detected rackStatus free known)
  unfold detectNewAction
  dsimp only
  split
  · rename_i changed found
    simp only [updateStatusIfconfigMapHasChanged, Option.ite_none_right_eq_some,
      Option.some.injEq] at found
    obtain ⟨_, rfl⟩ := found
    exact ⟨byAction (.updateConfigMap, .toDo) (by simp [detectedActions]), rfl, rfl, rfl, rfl⟩
  split
  · rename_i changed found
    simp only [updateStatusIfDockerImageHasChanged, Option.ite_none_right_eq_some,
      Option.some.injEq] at found
    obtain ⟨_, rfl⟩ := found
    exact ⟨byAction (.updateDockerImage, .toDo) (by simp [detectedActions]), rfl, rfl, rfl, rfl⟩
  split
  · rename_i changed found
    simp only [updateStatusIfStorageUpsize, Option.ite_none_right_eq_some,
      Option.some.injEq] at found
    obtain ⟨_, rfl⟩ := found
    exact ⟨.single (.upsize rackStatus free), rfl, rfl, rfl, rfl⟩
  split
  · rename_i changed found
    exact ⟨.single (updateStatusIfScaling_changes free read found), rfl, rfl, rfl, rfl⟩
  split
  · rename_i changed found
    simp only [updateStatusIfSeedListHasChanged, Option.ite_none_right_eq_some,
      Option.some.injEq] at found
    obtain ⟨_, rfl⟩ := found
    exact ⟨byAction (.updateSeedList, .configuring) (by simp [detectedActions]), rfl, rfl,
      rfl, rfl⟩
  split
  · exact ⟨byAction (.rollingRestart, .toDo) (by simp [detectedActions]), rfl, rfl,
      settled_clearRollingRestart pass.cc.spec dc rack, rfl⟩
  split
  · rename_i changed found
    simp only [updateStatusIfStatefulSetChanged, Option.ite_none_right_eq_some,
      Option.some.injEq] at found
    obtain ⟨_, rfl⟩ := found
    exact ⟨.single (.revisionChanged rackStatus free), rfl, rfl, rfl, rfl⟩
  · exact ⟨.single (.startResources rackStatus), rfl, rfl, rfl, rfl⟩

theorem getNextCassandraClusterStatus_changes (platform : Platform) (pass : Pass)
    (dc rack : Nat) {sts : StatefulSet} (rackStatus : CassandraRackStatus)
    (read : answers.statefulSet = .ok sts) :
    let next := getNextCassandraClusterStatus platform answers.now pass dc rack sts
      rackStatus answers.next
    ObservedChanges pass.cc.spec (pass.cc.spec.completeRackName dc rack).dcRackName answers
        rackStatus next.rack ∧
      (∀ effect ∈ next.effects, effect.isPlain = true) ∧
      next.spec.settled = pass.cc.spec.settled ∧
      next.spec.unlockNextOperation = pass.cc.spec.unlockNextOperation := by
  unfold getNextCassandraClusterStatus
  dsimp only
  split
  · exact ⟨.refl, by simp, rfl, rfl⟩
  split
  · exact ⟨.refl, by simp, rfl, rfl⟩
  · rename_i ended effects found
    obtain ⟨running, other, rfl, labels⟩ := updateStatusIfActionEnded_ended found
    exact ⟨.single (.ended rackStatus running other), labels, rfl, rfl⟩
  split
  · exact ⟨.refl, by simp, rfl, rfl⟩
  have unlocked : ObservedChanges pass.cc.spec
      (pass.cc.spec.completeRackName dc rack).dcRackName answers rackStatus
      (leaveInitial rackStatus) := by
    unfold leaveInitial
    split
    · exact .single (.phase rackStatus .pending (Or.inl rfl))
    · exact .refl
  split
  · rename_i checks
    have free : MayStart pass.cc.spec (leaveInitial rackStatus) := by
      simp only [checksForNewAction, Bool.or_eq_true, Bool.and_eq_true, bne_iff_ne] at checks
      rcases checks with unlocked | ⟨⟨⟨_, idle⟩, _⟩, _⟩
      · exact Or.inl unlocked.1
      · exact Or.inr idle
    obtain ⟨changes, effects, _, spec⟩ :=
      detectNewAction_changes platform pass dc rack (leaveInitial rackStatus) free read
    exact ⟨unlocked.trans changes, by simp [effects], spec⟩
  · exact ⟨unlocked.tail (.startResources _), by simp, rfl, rfl⟩

end Observe

/-! ## Pod operations -/

section Operate

variable {part : Part} {dcRackName : String} {answers : RackAnswers} {pass : Pass}
  {rack : CassandraRackStatus}

theorem DecommissionStep.moves {ready : Bool} {result : PodOperationResult}
    (found : pass.rackStatus dcRackName = some rack)
    (scaling : weAreScalingDown rack = true)
    (step : DecommissionStep answers.now pass dcRackName rack answers.handle.decommission
      ready result) :
    Moves (.decommissioning answers) dcRackName answers pass result.pass := by
  have start : Moves (.decommissioning answers) dcRackName answers pass pass := .refl
  cases step with
  | wait => exact start
  | fault => exact start
  | otherOperation =>
    exact start.emit (by simp [Part.decommissioning, Effect.isQuiet, Effect.isLocal,
      Effect.spawnedRack])
  | unknownStatus =>
    exact start.emit (by simp [Part.decommissioning, Effect.isQuiet, Effect.isLocal,
      Effect.spawnedRack])
  | start pods lastPod mode named asked listed last observed =>
    have changed := start.rack found
      (.single (.start rack pods lastPod scaling listed last))
    exact changed.emit (by simp [Part.decommissioning, Effect.isQuiet, Effect.isLocal,
      Effect.spawnedRack])
  | bypass pods lastPod named asked listed last pending =>
    have changed := start.rack found
      (.single (.bypass rack pods lastPod scaling listed last))
    exact changed.emit (by simp [Part.decommissioning, Effect.isQuiet, Effect.isLocal,
      Effect.spawnedRack])
  | retry ongoing =>
    exact start.rack found (.single (.retry rack scaling ongoing))
  | left podName others mode ongoing pods gone =>
    have changed := start.rack found (.single (.left rack scaling ongoing))
    exact (changed.emit (by simp [Part.decommissioning, Effect.isQuiet, Effect.isLocal,
      Effect.spawnedRack])).statusWrite _ rfl
  | finish podName others effects finalizing pods claim =>
    have changed := start.rack found
      (.single (.finish rack podName ready scaling finalizing))
    refine changed.emit fun effect member => ?_
    rw [claim effect member]
    rfl
  | more done =>
    exact start.rack found (.single (.more rack scaling done))

theorem finalizeAll_moves (records : part.records = true)
    (ops : List (FinalizedOp × List FinalizeAttempt))
    (known : ∀ op ∈ ops, op ∈ answers.handle.operations.channel) :
    ∀ (pass : Pass), Moves part dcRackName answers pass (finalizeAll pass ops).pass := by
  induction ops with
  | nil => exact fun pass => .refl
  | cons op ops induction =>
    intro pass
    have first : Moves part dcRackName answers pass
        (finalizeOperation pass op.1 op.2).pass :=
      .single (.finalize op.1 op.2 (known op List.mem_cons_self) records)
    unfold finalizeAll
    dsimp only
    split
    · exact first.trans
        (induction (fun other member => known other (List.mem_cons_of_mem _ member)) _)
    · exact first

theorem finalizeOperation_rackStatus (pass : Pass) (op : FinalizedOp)
    (attempts : List FinalizeAttempt) (name : String) :
    (finalizeOperation pass op attempts).pass.rackStatus name = pass.rackStatus name := by
  unfold finalizeOperation
  split <;> rfl

theorem finalizeAll_rackStatus (ops : List (FinalizedOp × List FinalizeAttempt)) (name : String) :
    ∀ (pass : Pass), (finalizeAll pass ops).pass.rackStatus name = pass.rackStatus name := by
  induction ops with
  | nil => exact fun pass => rfl
  | cons op ops induction =>
    intro pass
    unfold finalizeAll
    dsimp only
    split
    · rw [induction, finalizeOperation_rackStatus]
    · exact finalizeOperation_rackStatus pass op.1 op.2 name

theorem Pass.updateCassandraStatus_rackStatus (pass : Pass) (answer : WriteAnswer) (name : String) :
    (pass.updateCassandraStatus answer).rackStatus name = pass.rackStatus name := rfl

/-- Everything of the rack but its pod operation is kept. -/
def KeepsRack (dcRackName : String) (rack : CassandraRackStatus) (after : Pass) : Prop :=
  ∃ operation, after.rackStatus dcRackName =
    some { rack with podLastOperation := operation }

/-- The rack is kept but for its pod operation, which is going on. -/
def OperatesRack (dcRackName : String) (rack : CassandraRackStatus) (after : Pass) : Prop :=
  ∃ operation, after.rackStatus dcRackName =
    some { rack with podLastOperation := operation } ∧ operation.status = .ongoing

theorem OperatesRack.keepsRack {after : Pass} (operates : OperatesRack dcRackName rack after) :
    KeepsRack dcRackName rack after := by
  obtain ⟨operation, found, _⟩ := operates
  exact ⟨operation, found⟩

/-- A change of the pod operation of a rack that is not scaling down, followed by a
status write. -/
private theorem operation_moves (idle : weAreScalingDown rack = false)
    (found : pass.rackStatus dcRackName = some rack) (operation : PodLastOperation)
    (status : operation.status = .ongoing ∨ operation.status = .done) (answer : WriteAnswer) :
    Moves (.operating dcRackName) dcRackName answers pass
      ((pass.setRackStatus dcRackName
        { rack with podLastOperation := operation }).updateCassandraStatus answer) := by
  have start : Moves (.operating dcRackName) dcRackName answers pass pass := .refl
  exact (start.rack found (.single (.operate rack operation idle status))).statusWrite answer
    rfl

theorem initOperation_moves (operations : OperationAnswers)
    (idle : weAreScalingDown rack = false)
    (found : pass.rackStatus dcRackName = some rack) :
    let work := initOperation answers.now pass dcRackName rack operations
    Moves (.operating dcRackName) dcRackName answers pass work.1 ∧
      KeepsRack dcRackName rack work.1 ∧
      (work.2 ≠ [] → OperatesRack dcRackName rack work.1) := by
  have same : KeepsRack dcRackName rack pass := ⟨rack.podLastOperation, found⟩
  have changed : ∀ (operation : PodLastOperation) (answer : WriteAnswer),
      ((pass.setRackStatus dcRackName { rack with podLastOperation := operation
        }).updateCassandraStatus answer).rackStatus dcRackName =
        some { rack with podLastOperation := operation } :=
    fun operation _ => Pass.rackStatus_setRackStatus pass dcRackName _
  unfold initOperation
  dsimp only
  split
  · split
    · exact ⟨operation_moves idle found _ (Or.inr rfl) _, ⟨_, changed _ _⟩, by simp⟩
    · exact ⟨.refl, same, by simp⟩
  · split
    · exact ⟨operation_moves idle found _ (Or.inl rfl) _, ⟨_, changed _ _⟩,
        fun _ => ⟨_, changed _ _, rfl⟩⟩
    · rename_i going
      exact ⟨.refl, same, fun _ => ⟨rack.podLastOperation, found, by simpa using going⟩⟩

theorem getPodsToWorkOn_moves (platform : Platform) (operations : OperationAnswers)
    (idle : weAreScalingDown rack = false)
    (found : pass.rackStatus dcRackName = some rack) :
    let work := getPodsToWorkOn platform answers.now pass dcRackName rack operations
    Moves (.operating dcRackName) dcRackName answers pass work.1 ∧
      KeepsRack dcRackName rack work.1 ∧
      (work.2.1 ≠ [] → work.2.2 = false → OperatesRack dcRackName rack work.1) := by
  have same : KeepsRack dcRackName rack pass := ⟨rack.podLastOperation, found⟩
  have start : Moves (.operating dcRackName) dcRackName answers pass pass := .refl
  unfold getPodsToWorkOn
  dsimp only
  split
  · exact ⟨.refl, same, by simp⟩
  split
  · dsimp only
    split
    · exact ⟨operation_moves idle found _ (Or.inr rfl) _,
        ⟨_, Pass.rackStatus_setRackStatus pass dcRackName _⟩, by simp⟩
    · exact ⟨start.statusWrite _ rfl, same, by simp⟩
  · obtain ⟨moves, kept, operates⟩ := @initOperation_moves dcRackName answers pass rack
      operations idle found
    exact ⟨moves, kept, fun nonempty _ => operates nonempty⟩

theorem startOperation_moves (platform : Platform) (operation : OperationName) (pod : Pod)
    (answer : Bool × WriteAnswer) (idle : weAreScalingDown rack = false)
    (operates : OperatesRack dcRackName rack pass) :
    let after := startOperation platform pass dcRackName operation pod answer
    Moves (.operating dcRackName) dcRackName answers pass after ∧
      OperatesRack dcRackName rack after := by
  obtain ⟨current, found, going⟩ := operates
  have start : Moves (.operating dcRackName) dcRackName answers pass pass := .refl
  unfold startOperation
  rw [found]
  dsimp only
  split
  · exact ⟨start.rack found (.single (.operate _ _ idle (Or.inl going))), _,
      Pass.rackStatus_setRackStatus pass dcRackName _, going⟩
  · refine ⟨Moves.emit (Moves.statusWrite (Moves.emit (start.rack found
        (.single (.operate _ _ idle ?_))) ?_) _ rfl) ?_, _,
      Pass.rackStatus_setRackStatus pass dcRackName _, going⟩
    · exact Or.inl going
    · simp [Part.operating, Effect.isOperation, Effect.isPlain, Effect.isQuiet, Effect.isLocal,
        Effect.spawnedRack]
    · simp [Part.operating, Effect.isOperation, Effect.spawnedRack]

theorem ensureOperation_moves (platform : Platform) (operations : OperationAnswers)
    (idle : weAreScalingDown rack = false)
    (found : pass.rackStatus dcRackName = some rack) :
    let after := ensureOperation platform answers.now pass dcRackName rack operations
    Moves (.operating dcRackName) dcRackName answers pass after ∧
      KeepsRack dcRackName rack after := by
  have listed := @getPodsToWorkOn_moves dcRackName answers pass rack platform operations idle
    found
  unfold ensureOperation
  generalize getPodsToWorkOn platform answers.now pass dcRackName rack operations = work
    at listed
  obtain ⟨first, pods, checkOnly⟩ := work
  dsimp only at listed ⊢
  obtain ⟨moves, kept, operates⟩ := listed
  induction pods generalizing first with
  | nil => exact ⟨moves, kept⟩
  | cons pod pods induction =>
    rw [List.foldl_cons]
    cases checkOnly with
    | true =>
      exact induction _ (moves.emit (by simp [Part.operating, Effect.isOperation,
        Effect.spawnedRack])) kept (by simp)
    | false =>
      have started := fun answer =>
        @startOperation_moves dcRackName answers first rack platform operations.operation
          pod answer idle (operates (by simp) rfl)
      obtain ⟨onward, still⟩ := started (operations.start pod.name)
      exact induction _ (moves.trans onward) still.keepsRack fun _ _ => still

/-- Operations on a rack that is not scaling down leave everything but its pod
operation alone. -/
theorem handlePodOperation_moves (platform : Platform) (ready : Bool)
    (idle : weAreScalingDown rack = false)
    (found : pass.rackStatus dcRackName = some rack) :
    let result := handlePodOperation platform answers.now pass dcRackName rack answers.handle
      ready
    Moves (.operating dcRackName) dcRackName answers pass result.pass ∧
      KeepsRack dcRackName rack result.pass := by
  have same : KeepsRack dcRackName rack pass := ⟨rack.podLastOperation, found⟩
  have drained : ∀ op ∈ answers.handle.operations.channel.take
      (drainedCount answers.handle.operations.channel.length),
      op ∈ answers.handle.operations.channel := fun op member => List.mem_of_mem_take member
  have current := (finalizeAll_rackStatus (answers.handle.operations.channel.take
    (drainedCount answers.handle.operations.channel.length)) dcRackName pass).trans found
  unfold handlePodOperation
  rw [if_neg (by simp [idle])]
  split
  · exact ⟨.refl, same⟩
  · exact ⟨.refl, same⟩
  · split
    · dsimp only
      split
      · obtain ⟨moves, kept⟩ := ensureOperation_moves platform answers.handle.operations idle
          current
        exact ⟨(finalizeAll_moves rfl _ drained pass).trans moves, kept⟩
      · exact ⟨finalizeAll_moves rfl _ drained pass, _, current⟩
    · exact ⟨.refl, same⟩

end Operate

end Casskop
