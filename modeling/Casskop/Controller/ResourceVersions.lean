import Casskop.Controller.SharedChannel

/-!
# Resource versions

The API server accepts a write of the CassandraCluster only when it carries the version
of the stored object, and then gives the object a new version.  A pass stays in step
with the stored object until it takes a result from the channel: `finalizeOperation`
writes through a copy, and the new version never reaches the object of the pass.
-/

namespace Casskop

/-! ## The version of the stored object -/

variable {effect : Effect} {dcRackName : String} {version : Nat}

namespace Effect

/-- The version a write of the CassandraCluster carries, and the one it gets. -/
def put : Effect → Option (Nat × Option Nat)
  | .putCluster sent accepted => some (sent, accepted)
  | _ => none

/-- The version of the stored object after the call. -/
def bump (version : Nat) (effect : Effect) : Nat := (effect.put.bind Prod.snd).getD version

/-- A write carries the version of the stored object. -/
def Current (version : Nat) (effect : Effect) : Prop := ∀ write ∈ effect.put, write.1 = version

/-- Only a current write is accepted, and it makes the version grow. -/
def Honoured (version : Nat) (effect : Effect) : Prop :=
  ∀ write ∈ effect.put, ∀ accepted ∈ write.2, write.1 = version ∧ version < accepted

/-- A current write is not refused. -/
def Served (version : Nat) (effect : Effect) : Prop :=
  ∀ write ∈ effect.put, write.2 = none → write.1 ≠ version

instance (version : Nat) (effect : Effect) : Decidable (effect.Current version) :=
  inferInstanceAs (Decidable (∀ write ∈ effect.put, write.1 = version))

instance (version : Nat) (effect : Effect) : Decidable (effect.Honoured version) :=
  inferInstanceAs (Decidable (∀ write ∈ effect.put, ∀ accepted ∈ write.2,
    write.1 = version ∧ version < accepted))

instance (version : Nat) (effect : Effect) : Decidable (effect.Served version) :=
  inferInstanceAs (Decidable (∀ write ∈ effect.put, write.2 = none → write.1 ≠ version))

/-- Calls that neither write the CassandraCluster nor record a result. -/
def sparesCluster : Effect → Bool
  | .putCluster .. | .updateCluster .. | .updateObject .. | .updateClusterStatus .. => false
  | .finalizeOperation _ (some _) => false
  | _ => true

/-- What a write of the CassandraCluster stores. -/
def isPayload : Effect → Bool
  | .updateCluster .. | .updateObject .. | .updateClusterStatus .. => true
  | _ => false

section Kinds

theorem put_of_sparesCluster (spares : effect.sparesCluster = true) : effect.put = none := by
  cases effect <;> first | rfl | cases spares

theorem put_of_isPayload (payload : effect.isPayload = true) : effect.put = none := by
  cases effect <;> first | rfl | cases payload

theorem sparesCluster_of_isLocal (isLocal : effect.isLocal = true) :
    effect.sparesCluster = true := by
  cases effect <;> first | rfl | cases isLocal

theorem sparesCluster_of_writtenRack (writes : effect.writtenRack = some dcRackName) :
    effect.sparesCluster = true := by
  cases effect <;> first | rfl | cases writes

theorem bump_of_put (silent : effect.put = none) : effect.bump version = version := by
  unfold bump
  rw [silent]
  rfl

theorem le_bump (honoured : effect.Honoured version) : version ≤ effect.bump version := by
  unfold bump
  cases written : effect.put.bind Prod.snd with
  | none => exact Nat.le_refl version
  | some accepted =>
    obtain ⟨write, put, answer⟩ := Option.bind_eq_some_iff.mp written
    exact (honoured write put accepted answer).2.le

end Kinds

end Effect

variable {effects : List Effect}

theorem le_run_bump (honoured : Runs.Meets Effect.bump Effect.Honoured version effects) :
    version ≤ Runs.run Effect.bump version effects := by
  induction effects generalizing version with
  | nil => exact Nat.le_refl version
  | cons effect effects induction =>
    exact (Effect.le_bump honoured.1).trans (induction honoured.2)

section Spared

theorem run_bump_of_put (silent : ∀ effect ∈ effects, effect.put = none) (version : Nat) :
    Runs.run Effect.bump version effects = version := by
  induction effects with
  | nil => rfl
  | cons effect effects induction =>
    rw [Runs.run_cons, Effect.bump_of_put (silent effect List.mem_cons_self)]
    exact induction fun other member => silent other (List.mem_cons_of_mem _ member)

theorem World.cluster_applyEffect (spares : effect.sparesCluster = true) (world : World) :
    (world.applyEffect effect).cluster = world.cluster := by
  cases effect with
  | createStatefulSet _ _ succeeded | recreateStatefulSet _ _ succeeded
  | deleteStatefulSet _ succeeded | orphanStatefulSet _ succeeded =>
    cases succeeded <;> rfl
  | updateStatefulSet _ _ _ succeeded => cases succeeded <;> rfl
  | putCluster | updateCluster | updateObject | updateClusterStatus => cases spares
  | _ => rfl

theorem World.cluster_applyEffects (spares : ∀ effect ∈ effects, effect.sparesCluster = true) :
    ∀ world : World, (world.applyEffects effects).cluster = world.cluster := by
  induction effects with
  | nil => exact fun world => rfl
  | cons effect effects induction =>
    intro world
    calc ((world.applyEffect effect).applyEffects effects).cluster
        = (world.applyEffect effect).cluster :=
          induction (fun other member => spares other (List.mem_cons_of_mem _ member)) _
      _ = world.cluster := cluster_applyEffect (spares effect List.mem_cons_self) world

end Spared

/-! ## Results taken -/

def Untaken (effects : List Effect) : Prop :=
  ∀ op record, Effect.finalizeOperation op (some record) ∉ effects

theorem untaken_append {first second : List Effect} :
    Untaken (first ++ second) ↔ Untaken first ∧ Untaken second := by
  simp only [Untaken, List.mem_append, not_or, forall_and]

theorem untaken_of_spared (spares : ∀ effect ∈ effects, effect.sparesCluster = true) :
    Untaken effects := by
  intro op record member
  cases spares _ member

/-- The retry loop gets hold of the pod of every waiting result at some time. -/
def ReconcileAnswers.Labelled (answers : ReconcileAnswers) : Prop :=
  ∀ position, ∀ result ∈ (answers.racks position).handle.operations.channel,
    ∃ attempt ∈ result.2, attempt.labelled = true

/-! ## The object in memory against the stored one -/

/-- Status and annotation are stored. -/
structure Holds (stored object : CassandraCluster) : Prop where
  status : stored.status = object.status ∨ stored.status = object.status.serialized
  applied : stored.annotation = object.annotation

/-- The object of a pass after the calls `effects`. -/
structure Versioned (world : World) (answers : ReconcileAnswers) (cc : CassandraCluster)
    (effects : List Effect) : Prop where
  current : Untaken effects →
    Runs.Meets Effect.bump Effect.Current world.cluster.resourceVersion effects
  synced : Untaken effects →
    Runs.run Effect.bump world.cluster.resourceVersion effects = cc.resourceVersion
  stored : Untaken effects →
    Runs.Meets Effect.bump Effect.Served world.cluster.resourceVersion effects →
    Holds (world.applyEffects effects).cluster cc
  /-- Once a result was taken, the object of the pass is out of date. -/
  behind : answers.Labelled → ¬ Untaken effects →
    Runs.Meets Effect.bump Effect.Honoured world.cluster.resourceVersion effects →
    Runs.Meets Effect.bump Effect.Served world.cluster.resourceVersion effects →
    cc.resourceVersion < Runs.run Effect.bump world.cluster.resourceVersion effects
  waited : ¬ Untaken effects → answers.Drains world.cluster.spec

variable {world : World} {answers : ReconcileAnswers} {cc : CassandraCluster}

namespace Versioned

variable {cc' : CassandraCluster} {more : List Effect}

variable (versioned : Versioned world answers cc effects)

include versioned

theorem spare (spares : ∀ effect ∈ more, effect.sparesCluster = true)
    (version : cc'.resourceVersion = cc.resourceVersion) (status : cc'.status = cc.status)
    (applied : cc'.annotation = cc.annotation) : Versioned world answers cc' (effects ++ more) := by
  have silent : ∀ effect ∈ more, effect.put = none :=
    fun effect member => Effect.put_of_sparesCluster (spares effect member)
  have before : Untaken (effects ++ more) ↔ Untaken effects :=
    untaken_append.trans (and_iff_left (untaken_of_spared spares))
  have final : Runs.run Effect.bump world.cluster.resourceVersion (effects ++ more) =
      Runs.run Effect.bump world.cluster.resourceVersion effects := by
    rw [Runs.run_append]
    exact run_bump_of_put silent _
  refine ⟨fun untaken => ?_, fun untaken => ?_, fun untaken served => ?_,
    fun labelled taken honoured served => ?_,
    fun taken => versioned.waited fun untaken => taken (before.mpr untaken)⟩
  · refine Runs.Meets.append.mpr ⟨versioned.current (before.mp untaken),
      Runs.Meets.of_forall fun effect member version write put => ?_⟩
    rw [silent effect member] at put
    cases put
  · rw [final, version]
    exact versioned.synced (before.mp untaken)
  · obtain ⟨holds, same⟩ :=
      versioned.stored (before.mp untaken) (Runs.Meets.append.mp served).1
    rw [World.applyEffects_append]
    constructor
    · rw [World.cluster_applyEffects spares, status]
      exact holds
    · rw [World.cluster_applyEffects spares, applied]
      exact same
  · rw [final, version]
    exact versioned.behind labelled (fun untaken => taken (before.mpr untaken))
      (Runs.Meets.append.mp honoured).1 (Runs.Meets.append.mp served).1

theorem congr (version : cc'.resourceVersion = cc.resourceVersion) (status : cc'.status = cc.status)
    (applied : cc'.annotation = cc.annotation) : Versioned world answers cc' effects := by
  rw [← List.append_nil effects]
  exact versioned.spare (by simp) version status applied

theorem put (object : CassandraCluster)
    (same : object.resourceVersion = cc.resourceVersion) (answer : Except ApiError Nat)
    (effect : Effect) (payload : effect.isPayload = true)
    (stores : ∀ stored : World, Holds stored.cluster cc → Except.succeeded answer = true →
      Holds (stored.applyEffect effect).cluster object) :
    Versioned world answers (object.received answer)
      (effects ++ [.putCluster object.resourceVersion answer.toOption, effect]) := by
  have silent := Effect.put_of_isPayload payload
  have quiet : Untaken [Effect.putCluster object.resourceVersion answer.toOption, effect] := by
    intro op record member
    rcases List.mem_pair.mp member with put | rfl
    · cases put
    · cases payload
  have before : Untaken (effects ++ [.putCluster object.resourceVersion answer.toOption,
      effect]) ↔ Untaken effects := untaken_append.trans (and_iff_left quiet)
  have final : Runs.run Effect.bump world.cluster.resourceVersion
      (effects ++ [.putCluster object.resourceVersion answer.toOption, effect]) =
        answer.toOption.getD (Runs.run Effect.bump world.cluster.resourceVersion effects) := by
    rw [Runs.run_append, Runs.run_cons, Runs.run_cons, Effect.bump_of_put silent]
    rfl
  refine ⟨fun untaken => ?_, fun untaken => ?_, fun untaken served => ?_,
    fun labelled taken honoured served => ?_,
    fun taken => versioned.waited fun untaken => taken (before.mpr untaken)⟩
  · refine Runs.Meets.append.mpr ⟨versioned.current (before.mp untaken), ?_, ?_, trivial⟩
    · intro write put
      cases put
      rw [versioned.synced (before.mp untaken)]
      exact same
    · intro write put
      rw [silent] at put
      cases put
  · rw [final, versioned.synced (before.mp untaken)]
    cases answer with
    | ok version => rfl
    | error error => exact same.symm
  · obtain ⟨first, put, _, _⟩ := Runs.Meets.append.mp served
    have holds := versioned.stored (before.mp untaken) first
    cases answer with
    | ok version =>
      rw [World.applyEffects_append]
      obtain ⟨status, applied⟩ := stores _ holds rfl
      exact ⟨status, applied⟩
    | error error =>
      refine absurd ?_ (put (object.resourceVersion, none) rfl rfl)
      rw [versioned.synced (before.mp untaken)]
      exact same
  · obtain ⟨first, put, _, _⟩ := Runs.Meets.append.mp honoured
    have behind := versioned.behind labelled (fun untaken => taken (before.mpr untaken)) first
      (Runs.Meets.append.mp served).1
    rw [final]
    cases answer with
    | ok version =>
      have current := (put (object.resourceVersion, some version) rfl version rfl).1
      exact absurd (same.symm.trans current) behind.ne
    | error error => exact same ▸ behind

theorem updateCassandraStatus
    (needUpdate : Bool) (status : CassandraClusterStatus) (answer : WriteAnswer) :
    Versioned world answers (updateCassandraStatus needUpdate cc status answer).cc
      (effects ++ (updateCassandraStatus needUpdate cc status answer).effects) := by
  unfold Casskop.updateCassandraStatus
  dsimp only
  split
  · exact versioned.spare (by simp) rfl rfl rfl
  · have object := versioned.put
      { cc with annotation := .config cc.computeLastAppliedConfiguration } rfl answer.update
      (.updateCluster cc.computeLastAppliedConfiguration (Except.succeeded answer.update)) rfl
      (fun stored holds accepted => by
        rw [accepted]
        exact ⟨holds.status, rfl⟩)
    have both := object.put
      { CassandraCluster.received
          { cc with annotation := .config cc.computeLastAppliedConfiguration } answer.update with
        status := status } rfl answer.statusUpdate
      (.updateClusterStatus status (Except.succeeded answer.statusUpdate)) rfl
      (fun stored holds accepted => by
        rw [accepted]
        exact ⟨Or.inr rfl, holds.applied⟩)
    rw [List.append_assoc] at both
    exact both

end Versioned

/-! ## Results -/

theorem appendString_ne (items : Option (List String)) (item : String) :
    appendString items item ≠ items := by
  intro same
  cases items with
  | none => cases same
  | some items => simp [appendString] at same

theorem updatePodLastOperation_ne (op : FinalizedOp) (operation : PodLastOperation) :
    updatePodLastOperation op operation ≠ operation := by
  intro same
  unfold updatePodLastOperation at same
  dsimp only at same
  split at same
  · exact appendString_ne _ _ (congrArg PodLastOperation.podsKO same)
  · exact appendString_ne _ _ (congrArg PodLastOperation.podsOK same)

variable {status : CassandraClusterStatus}

theorem updateCassandraStatus_puts (changed : cc.status ≠ status) (needUpdate : Bool)
    (answer : WriteAnswer) :
    ∃ rest, (updateCassandraStatus needUpdate cc status answer).effects =
      .putCluster cc.resourceVersion answer.update.toOption :: rest := by
  unfold updateCassandraStatus
  dsimp only
  rw [if_neg (by simp [changed])]
  exact ⟨_, rfl⟩

/-- An attempt that gets hold of the pod writes the status first. -/
theorem finalizeLoop_puts (changed : cc.status ≠ status) (label : Effect)
    {attempt : FinalizeAttempt} (labelled : attempt.labelled = true)
    (attempts : List FinalizeAttempt) (needUpdate : Bool) :
    ∃ rest, (finalizeLoop status label (attempt :: attempts) cc needUpdate).effects =
      label :: .putCluster cc.resourceVersion attempt.write.update.toOption :: rest := by
  obtain ⟨rest, effects⟩ := updateCassandraStatus_puts changed needUpdate attempt.write
  unfold finalizeLoop
  dsimp only
  rw [if_neg (by simp [labelled])]
  split
  · exact ⟨rest, congrArg (List.cons label) effects⟩
  · dsimp only
    rw [effects]
    exact ⟨_, rfl⟩

theorem finalizeLoop_bumps {label : Effect} (silent : label.put = none)
    (changed : cc.status ≠ status) (attempts : List FinalizeAttempt) (needUpdate : Bool)
    (labelled : ∃ attempt ∈ attempts, attempt.labelled = true)
    (honoured : Runs.Meets Effect.bump Effect.Honoured cc.resourceVersion (finalizeLoop status label
      attempts cc needUpdate).effects)
    (served : Runs.Meets Effect.bump Effect.Served cc.resourceVersion (finalizeLoop status label
      attempts cc needUpdate).effects) :
    cc.resourceVersion < Runs.run Effect.bump cc.resourceVersion
      (finalizeLoop status label attempts cc needUpdate).effects := by
  induction attempts with
  | nil =>
    obtain ⟨_, impossible, _⟩ := labelled
    cases impossible
  | cons attempt attempts induction =>
    by_cases named : attempt.labelled = true
    · obtain ⟨rest, effects⟩ := finalizeLoop_puts changed label named attempts needUpdate
      rw [effects] at honoured served ⊢
      obtain ⟨_, accepted, later⟩ := honoured
      obtain ⟨_, answered, _⟩ := served
      rw [Effect.bump_of_put silent] at accepted answered later
      rw [Runs.run_cons, Effect.bump_of_put silent]
      cases answer : attempt.write.update with
      | error error =>
        rw [answer] at answered
        exact absurd rfl (answered (cc.resourceVersion, none) rfl rfl)
      | ok version =>
        rw [answer] at accepted later
        calc cc.resourceVersion
            < version := (accepted (cc.resourceVersion, some version) rfl version rfl).2
          _ ≤ Runs.run Effect.bump version rest := le_run_bump later
    · have skips : finalizeLoop status label (attempt :: attempts) cc needUpdate =
          finalizeLoop status label attempts cc needUpdate :=
        if_pos (Bool.eq_false_of_not_eq_true named)
      rw [skips] at honoured served ⊢
      refine induction ?_ honoured served
      obtain ⟨other, member, holds⟩ := labelled
      rcases List.mem_cons.mp member with rfl | later
      · exact absurd holds named
      · exact ⟨other, later, holds⟩

variable {pass : Pass}

theorem Versioned.finalizeOperation (versioned : Versioned world answers pass.cc pass.effects)
    (op : FinalizedOp) (attempts : List FinalizeAttempt)
    (labelled : answers.Labelled → ∃ attempt ∈ attempts, attempt.labelled = true)
    (waiting : answers.Drains world.cluster.spec) :
    Versioned world answers (finalizeOperation pass op attempts).pass.cc
      (finalizeOperation pass op attempts).pass.effects := by
  unfold Casskop.finalizeOperation
  split
  · exact versioned.spare (by simp [Effect.sparesCluster]) rfl rfl rfl
  · rename_i rack found
    dsimp only
    have taken : ∀ rest, ¬ Untaken (pass.effects ++ .finalizeOperation op
        (some (setOperation rack (updatePodLastOperation op)).podLastOperation) :: rest) :=
      fun rest untaken => untaken op _ (List.mem_append_right _ List.mem_cons_self)
    refine ⟨fun untaken => absurd untaken (taken _), fun untaken => absurd untaken (taken _),
      fun untaken => absurd untaken (taken _), fun labels _ honoured served => ?_,
      fun _ => waiting⟩
    obtain ⟨honouredBefore, _, honouredLoop⟩ := Runs.Meets.append.mp honoured
    obtain ⟨servedBefore, _, servedLoop⟩ := Runs.Meets.append.mp served
    rw [Runs.run_append, Runs.run_cons, Effect.bump_of_put rfl]
    rw [Effect.bump_of_put rfl] at honouredLoop servedLoop
    by_cases untaken : Untaken pass.effects
    · have synced := versioned.synced untaken
      rw [synced] at honouredLoop servedLoop ⊢
      refine finalizeLoop_bumps rfl (fun same => ?_) attempts pass.needUpdate (labelled labels)
        honouredLoop servedLoop
      have racks := congrArg
        (fun status : CassandraClusterStatus =>
          status.cassandraRackStatus.lookup op.dcRackName) same
      dsimp only at racks
      rw [found, Finmap.lookup_insert, Option.some.injEq] at racks
      exact updatePodLastOperation_ne op _
        (congrArg CassandraRackStatus.podLastOperation racks).symm
    · exact (versioned.behind labels untaken honouredBefore servedBefore).trans_le
        (le_run_bump honouredLoop)

/-! ## The racks -/

section Racks

variable {position : Nat × Nat} {part : Part} {before after : Pass}

section

variable (inside : position ∈ world.cluster.spec.rackPositions)

include inside

theorem Move.versioned (move : Move part dcRackName (answers.racks position) before after)
    (versioned : Versioned world answers before.cc before.effects) :
    Versioned world answers after.cc after.effects := by
  cases move with
  | init | rack | pdb => exact versioned
  | emit emits =>
    refine versioned.spare (fun effect member => ?_) rfl rfl rfl
    rw [List.mem_singleton.mp member]
    exact Effect.sparesCluster_of_isLocal (part.isLocal emits)
  | statusWrite answer records =>
    exact versioned.updateCassandraStatus before.needUpdate before.status answer
  | finalize op attempts known records =>
    exact versioned.finalizeOperation op attempts
      (fun labelled => labelled position (op, attempts) known)
      ⟨position, inside, List.ne_nil_of_mem known⟩
  | memory status cluster object settled unlock kept read =>
    rw [kept.2]
    exact versioned.congr read.1 object.1 read.2

theorem Moves.versioned (moves : Moves part dcRackName (answers.racks position) before after)
    (versioned : Versioned world answers before.cc before.effects) :
    Versioned world answers after.cc after.effects := by
  induction moves with
  | refl => exact versioned
  | tail _ move induction => exact move.versioned inside induction

theorem Iteration.versioned {written : List Effect}
    (iteration : Iteration part dcRackName (answers.racks position) written before after)
    (versioned : Versioned world answers before.cc before.effects) :
    Versioned world answers after.cc after.effects := by
  obtain ⟨middle, first, reasons, second⟩ := iteration.split
  refine second.versioned inside ((first.versioned inside versioned).spare ?_ rfl rfl rfl)
  exact fun effect member =>
    Effect.sparesCluster_of_writtenRack (reasons effect member).writtenRack

end

theorem reconcileRack_versioned (platform : Platform) {ready : Pass}
    (topology : ready.cc.spec.rackPositions = world.cluster.spec.rackPositions)
    (versioned : Versioned world answers ready.cc ready.effects) :
    Versioned world answers
      (reconcileRack platform answers.racks answers.removeFinalizers ready).pass.cc
      (reconcileRack platform answers.racks answers.removeFinalizers ready).pass.effects := by
  have looped : Versioned world answers (ready.looped platform answers).cc
      (ready.looped platform answers).effects := by
    refine @reconcileRacks_invariant (fun pass => Versioned world answers pass.cc pass.effects)
      platform answers.racks _ ?_ ready false versioned
    intro position member pass step kept iteration
    rw [topology] at member
    cases iteration with
    | nameless | added => exact kept
    | deleting =>
      refine kept.spare (fun effect member => ?_) rfl rfl rfl
      obtain ⟨_, rfl⟩ := deletePVCs_quiet _ _ member
      rfl
    | handled rackStatus written step found alive handled path =>
      exact handled.iteration.versioned member kept
  unfold reconcileRack
  dsimp only
  split
  · split
    · exact looped
    split
    · exact looped.put { (ready.looped platform answers).cc with
          metadata := { (ready.looped platform answers).cc.metadata with finalizers := [] } } rfl
        answers.removeFinalizers (.updateObject _ _ _) rfl fun stored holds accepted => by
          rw [accepted]
          exact ⟨holds.status, holds.applied⟩
    · exact looped
  · exact looped

end Racks

/-! ## Passes that do not return -/

section Hanging

variable (platform : Platform)

theorem ensureCassandraStatefulSet_returns (now : Nat) (pass : Pass) (dcRackName : String)
    (rack : CassandraRackStatus) (answers : StatefulSetAnswers) :
    (ensureCassandraStatefulSet platform now pass dcRackName rack answers).flow ≠ .hang := by
  unfold ensureCassandraStatefulSet createOrUpdateStatefulSet writeStatefulSet
  dsimp only
  repeat' split
  all_goals simp

theorem applyRack_returns (answers : RackAnswers) (names : CompleteRackName) (pass : Pass) :
    (applyRack platform answers names pass).flow ≠ .hang := by
  unfold applyRack
  split
  · simp
  split
  · unfold upsizeRack
    split
    · unfold upsizeFlow
      dsimp only
      split <;> simp
    · simp
    · unfold upsizeFlow
      dsimp only
      split <;> simp
  · rename_i rack found upsizing
    have returns := ensureCassandraStatefulSet_returns platform answers.now
      (pass.receivePdb answers.leftover.beforeWrite) names.dcRackName rack answers.ensure
    unfold afterEnsure
    split
    · simp
    · rename_i hangs
      exact absurd hangs returns
    · simp
    · dsimp only
      split
      · simp
      · split <;> simp

theorem finalizeOperation_hangs {op : FinalizedOp} {attempts : List FinalizeAttempt}
    (hangs : (finalizeOperation pass op attempts).flow = .hang) :
    ¬ Untaken (finalizeOperation pass op attempts).pass.effects := by
  unfold finalizeOperation at hangs ⊢
  split at hangs
  · cases hangs
  · exact fun untaken => untaken op _ (List.mem_append_right _ List.mem_cons_self)

theorem finalizeAll_hangs (results : List (FinalizedOp × List FinalizeAttempt)) :
    ∀ {pass : Pass}, (finalizeAll pass results).flow = .hang →
      ¬ Untaken (finalizeAll pass results).pass.effects := by
  induction results with
  | nil =>
    intro pass hangs
    cases hangs
  | cons result results induction =>
    intro pass hangs
    unfold finalizeAll at hangs ⊢
    dsimp only at hangs ⊢
    split at hangs
    · exact induction hangs
    · exact finalizeOperation_hangs hangs

/-- Only a result whose pod cannot be labelled keeps the operations from returning. -/
theorem handlePodOperation_hangs {now : Nat} {rack : CassandraRackStatus} {answers : HandleAnswers}
    {ready : Bool} (idle : weAreScalingDown rack = false)
    (hangs : (handlePodOperation platform now pass dcRackName rack answers ready).flow = .hang) :
    ¬ Untaken (handlePodOperation platform now pass dcRackName rack answers
      ready).pass.effects := by
  unfold handlePodOperation at hangs ⊢
  rw [if_neg (by simp [idle])] at hangs ⊢
  split at hangs
  · cases hangs
  · cases hangs
  split at hangs
  · rename_i done
    rw [if_pos done]
    dsimp only at hangs ⊢
    split at hangs
    · cases hangs
    · exact finalizeAll_hangs _ hangs
  · cases hangs

theorem afterOperation_hangs {answers : RackAnswers} {names : CompleteRackName}
    {result : PodOperationResult}
    (hangs : (afterOperation platform answers names result).flow = .hang) :
    result.flow = .hang ∧ (afterOperation platform answers names result).pass = result.pass := by
  unfold afterOperation at hangs ⊢
  split at hangs
  · cases hangs
  · rename_i stuck
    exact ⟨stuck, rfl⟩
  · exact absurd hangs (applyRack_returns platform _ _ _)
  · split at hangs
    · cases hangs
    · dsimp only at hangs
      split at hangs <;> cases hangs

theorem OperatePath.hangs {platform : Platform} {answers : RackAnswers} {names : CompleteRackName}
    {sts : StatefulSet} {rackStatus : CassandraRackStatus} {step : RackStep}
    (path : OperatePath platform answers names sts rackStatus pass step)
    (hangs : step.flow = .hang) :
    ¬ Untaken step.pass.effects := by
  cases path with
  | initializing phase => exact absurd hangs (applyRack_returns platform _ _ _)
  | decommission result scaling made =>
    obtain ⟨stuck, _⟩ := afterOperation_hangs platform hangs
    cases made <;> cases stuck
  | operation result idle made moves kept =>
    obtain ⟨stuck, same⟩ := afterOperation_hangs platform hangs
    rw [same]
    rw [made] at stuck ⊢
    exact handlePodOperation_hangs platform idle stuck

theorem IterationCase.hangs {platform : Platform} {answers : RackAnswers} {dc rack : Nat}
    {step : RackStep} (iteration : IterationCase platform answers dc rack pass step)
    (hangs : step.flow = .hang) : ¬ Untaken step.pass.effects := by
  cases iteration with
  | nameless | added | deleting => cases hangs
  | handled rackStatus written step found alive handled path =>
    cases path with
    | unread failed => exact absurd hangs (applyRack_returns platform _ _ _)
    | phaseFault => cases hangs
    | observed sts phased next read phase action step path =>
      rcases path with ⟨_, rfl⟩ | path
      · cases hangs
      · exact path.hangs hangs

theorem reconcileRacks_hangs (answers : Nat × Nat → RackAnswers)
    (positions : List (Nat × Nat)) : ∀ {pass : Pass} {newStatus : Bool},
    (reconcileRacks platform answers positions pass newStatus).flow = .hang →
      ¬ Untaken (reconcileRacks platform answers positions pass newStatus).pass.effects := by
  induction positions with
  | nil =>
    intro pass newStatus hangs
    cases hangs
  | cons position positions induction =>
    intro pass newStatus hangs
    have iteration := reconcileRackAt_case platform (answers position) position.1 position.2
      pass
    unfold reconcileRacks at hangs ⊢
    dsimp only at hangs ⊢
    split at hangs
    · exact induction hangs
    · exact iteration.hangs hangs

theorem reconcileRack_hangs {ready : Pass}
    (hangs : (reconcileRack platform answers.racks answers.removeFinalizers ready).flow = .hang) :
    ¬ Untaken (reconcileRack platform answers.racks answers.removeFinalizers
      ready).pass.effects := by
  unfold reconcileRack at hangs ⊢
  dsimp only at hangs ⊢
  split at hangs
  · split at hangs
    · cases hangs
    split at hangs
    · dsimp only at hangs
      split at hangs <;> cases hangs
    · cases hangs
  · exact reconcileRacks_hangs platform answers.racks _ hangs

end Hanging

/-! ## Whole passes -/

section Passes

variable (platform : Platform) {world : World} {answers : ReconcileAnswers} {start ready : Pass}

/-- Behind the loop only the status changes, and a pass that does not return has taken a
result. -/
theorem reconcileRacksAndPhase_object :
    let run := reconcileRack platform answers.racks answers.removeFinalizers ready
    let result := reconcileRacksAndPhase platform answers ready
    result.1.cc = run.pass.cc ∧ result.1.effects = run.pass.effects ∧
      (result.2 = true → ¬ Untaken result.1.effects) := by
  have hangs := @reconcileRack_hangs answers platform ready
  unfold reconcileRacksAndPhase
  dsimp only
  split
  · rename_i stuck
    exact ⟨rfl, rfl, fun _ => hangs stuck⟩
  · exact ⟨rfl, rfl, nofun⟩
  · exact ⟨rfl, rfl, nofun⟩
  all_goals
    split
    · exact ⟨rfl, rfl, nofun⟩
    · exact ⟨rfl, rfl, nofun⟩

theorem reconcileChecked_versioned (started : Started world.cluster start)
    (versioned : Versioned world answers start.cc start.effects) :
    let result := reconcileChecked platform answers { start with status := start.cc.status }
    Versioned world answers result.1.cc result.1.effects ∧
      (result.2 = true → ¬ Untaken result.1.effects) := by
  have checkedCase := reconcileChecked_case platform answers start
  dsimp only
  generalize reconcileChecked platform answers { start with status := start.cc.status } = result
    at checkedCase
  cases checkedCase with
  | stopped stopped deletions object racks whole phase effects deletes read =>
    refine ⟨?_, nofun⟩
    rw [effects]
    refine versioned.spare (fun effect member => ?_) read.1 object read.2
    obtain ⟨_, _, rfl⟩ := deletes effect member
    rfl
  | loop ready isReady =>
    obtain ⟨object, effects, hangs⟩ := @reconcileRacksAndPhase_object platform answers ready
    refine ⟨?_, hangs⟩
    rw [object, effects]
    apply reconcileRack_versioned platform
    · rw [isReady.spec, started.spec]
      exact world.cluster.spec.checkDefaults_topology.1
    · rw [isReady.effects]
      exact versioned.congr isReady.read.1 isReady.object isReady.read.2

theorem Versioned.read (world : World) (answers : ReconcileAnswers) :
    Versioned world answers world.cluster [] := by
  have untaken : Untaken [] := fun op record member => by cases member
  exact ⟨fun _ => trivial, fun _ => rfl, fun _ _ => ⟨Or.inl rfl, rfl⟩,
    fun _ taken => absurd untaken taken, fun taken => absurd untaken taken⟩

theorem Versioned.refused (version : cc.resourceVersion = world.cluster.resourceVersion)
    (payload : effect.isPayload = true) :
    Versioned world answers cc
      [.putCluster world.cluster.resourceVersion none, effect] := by
  have first := (Versioned.read world answers).put world.cluster rfl (.error .other) effect
    payload fun _ _ accepted => by cases accepted
  refine ⟨first.current, fun untaken => (first.synced untaken).trans version.symm,
    fun untaken served => absurd rfl (served.1 (world.cluster.resourceVersion, none) rfl rfl),
    fun labelled taken honoured served => ?_, first.waited⟩
  rw [version]
  exact first.behind labelled taken honoured served

theorem Started.versioned (started : Started world.cluster start) (answers : ReconcileAnswers) :
    Versioned world answers start.cc start.effects := by
  have begins := Versioned.read world answers
  rcases started.written with ⟨none, version⟩ | ⟨metadata, only⟩
  · rw [none]
    exact begins.congr version started.status started.applied
  · have updated := begins.put world.cluster rfl (.ok start.cc.resourceVersion)
      (.updateObject metadata start.cc.spec true) rfl fun stored holds _ =>
        ⟨holds.status, holds.applied⟩
    rw [only]
    exact updated.congr rfl started.status started.applied

theorem initializeCluster_versioned (same : pass.cc = world.cluster) (fresh : pass.effects = []) :
    Versioned world answers (initializeCluster answers pass).cc
      (initializeCluster answers pass).effects := by
  have begins := Versioned.read world answers
  unfold initializeCluster
  dsimp only
  rw [same]
  split
  · rw [Pass.effects_emit, fresh]
    exact .refused rfl rfl
  · rename_i version updated
    have object := begins.put world.cluster rfl (.ok version)
      (.updateObject (updateDeletePvcStrategy world.cluster.setDefaults).metadata
        (updateDeletePvcStrategy world.cluster.setDefaults).spec true) rfl
      fun stored holds _ => ⟨holds.status, holds.applied⟩
    have status := object.put
      { updateDeletePvcStrategy world.cluster.setDefaults with resourceVersion := version } rfl
      answers.init.statusUpdate
      (.updateClusterStatus (updateDeletePvcStrategy world.cluster.setDefaults).status
        (Except.succeeded answers.init.statusUpdate)) rfl
      fun stored holds accepted => by
        rw [accepted]
        exact ⟨Or.inr rfl, holds.applied⟩
    rw [Pass.effects_emit, fresh]
    exact status

/-- The version of the object stays known until a result is taken. -/
theorem World.pass_versioned (world : World) (answers : ReconcileAnswers) :
    Versioned world answers (world.pass platform answers).cc
      (world.pass platform answers).effects := by
  have passCase := reconcile_case platform world.memory world.cluster answers
  unfold World.pass
  generalize reconcile platform world.memory world.cluster answers = pass at passCase
  cases passCase with
  | initializing pass unset same fresh => exact initializeCluster_versioned same fresh
  | refused pass sent metadata spec only version =>
    rw [only, version.1]
    exact .refused version.2 rfl
  | deferred start started =>
    have checked := (reconcileChecked_versioned platform started (started.versioned answers)).1
    unfold reconcileDeferred
    dsimp only
    split
    · exact checked
    · exact checked.updateCassandraStatus _ _ answers.write

/-- What is stored at the end of a pass, whose last call of `updateCassandraStatus` came
at `before`, is what the pass has computed. -/
structure Persisted (stored : CassandraCluster) (before after : Pass) : Prop where
  status : stored.status = after.status ∨ stored.status = after.status.serialized
  applied : stored.annotation = .config after.cc.computeLastAppliedConfiguration
  /-- The rest is written, unless there was nothing to write. -/
  object : after.effects = before.effects ∨
    stored.metadata = after.cc.metadata ∧ stored.spec = after.cc.spec

theorem Pass.updateCassandraStatus_applied (pass : Pass) (answer : WriteAnswer) :
    (pass.updateCassandraStatus answer).cc.annotation =
      .config (pass.updateCassandraStatus answer).cc.computeLastAppliedConfiguration := by
  unfold Pass.updateCassandraStatus Casskop.updateCassandraStatus
  dsimp only
  split
  · rename_i same
    simp only [Bool.and_eq_true, beq_iff_eq] at same
    exact same.2
  · cases answer.update <;> cases answer.statusUpdate <;> rfl

theorem Holds.persisted {before after : Pass} {answer : WriteAnswer}
    (writes : before.updateCassandraStatus answer = after)
    (holds : Holds (world.applyEffects after.effects).cluster after.cc)
    (current : Runs.Meets Effect.bump Effect.Current world.cluster.resourceVersion after.effects)
    (served : Runs.Meets Effect.bump Effect.Served world.cluster.resourceVersion after.effects) :
    Persisted (world.applyEffects after.effects).cluster before after := by
  subst writes
  refine ⟨?_, holds.applied.trans (before.updateCassandraStatus_applied answer), ?_⟩
  · have status := holds.status
    rw [Pass.updateCassandraStatus_aligned] at status
    exact status
  · unfold Pass.updateCassandraStatus Casskop.updateCassandraStatus at current served ⊢
    dsimp only at current served ⊢
    split at current
    · rename_i same
      rw [if_pos same]
      exact Or.inl (List.append_nil _)
    · rename_i different
      rw [if_neg different] at served ⊢
      obtain ⟨_, sent, _⟩ := Runs.Meets.append.mp current
      obtain ⟨_, answered, _⟩ := Runs.Meets.append.mp served
      rw [World.applyEffects_append]
      cases update : answer.update with
      | error error =>
        rw [update] at sent answered
        exact absurd (sent _ rfl) (answered _ rfl rfl)
      | ok version =>
        cases answer.statusUpdate <;> exact Or.inr ⟨rfl, rfl⟩

theorem World.pass_deferred (world : World) (answers : ReconcileAnswers)
    (phase : world.cluster.status.phase ≠ .unset)
    (untaken : Untaken (world.pass platform answers).effects)
    (served : Runs.Meets Effect.bump Effect.Served world.cluster.resourceVersion
      (world.pass platform answers).effects) :
    ∃ before : Pass, world.pass platform answers = before.updateCassandraStatus answers.write := by
  have passCase := reconcile_case platform world.memory world.cluster answers
  unfold World.pass at untaken served ⊢
  generalize reconcile platform world.memory world.cluster answers = pass
    at passCase untaken served ⊢
  cases passCase with
  | initializing pass unset same fresh => exact absurd unset phase
  | refused pass sent metadata spec only version =>
    rw [only, version.1] at served
    exact absurd rfl (served.1 _ rfl rfl)
  | deferred start started =>
    obtain ⟨_, hangs⟩ := reconcileChecked_versioned platform started (started.versioned answers)
    unfold reconcileDeferred at untaken ⊢
    dsimp only at untaken ⊢
    split at untaken
    · rename_i stuck
      exact absurd untaken (hangs stuck)
    · rename_i returned
      rw [if_neg returned]
      exact ⟨_, rfl⟩

/-- The pass never conflicts with its own writes. -/
structure World.InStep (world : World) (answers : ReconcileAnswers) : Prop where
  /-- Every write carries the version of the stored object. -/
  current : Runs.Meets Effect.bump Effect.Current world.cluster.resourceVersion
    (world.pass platform answers).effects
  synced : Runs.run Effect.bump world.cluster.resourceVersion
    (world.pass platform answers).effects = (world.pass platform answers).cc.resourceVersion
  stored : Casskop.Holds (world.step platform (.pass answers)).cluster
    (world.pass platform answers).cc
  persisted : world.cluster.status.phase ≠ .unset →
    ∃ before : Pass, world.pass platform answers = before.updateCassandraStatus answers.write ∧
      Persisted (world.step platform (.pass answers)).cluster before (world.pass platform answers)

/-- Every write of a pass that takes no result is current.  Where the server goes by the
versions, a pass stays in step with it just in case it takes none, and it takes none when
none is waiting. -/
theorem World.pass_inStep_iff (world : World) (answers : ReconcileAnswers) :
    (Untaken (world.pass platform answers).effects →
      Runs.Meets Effect.bump Effect.Current world.cluster.resourceVersion
        (world.pass platform answers).effects) ∧
    (¬ answers.Drains world.cluster.spec → Untaken (world.pass platform answers).effects) ∧
    (answers.Labelled →
      Runs.Meets Effect.bump Effect.Honoured world.cluster.resourceVersion
        (world.pass platform answers).effects →
      Runs.Meets Effect.bump Effect.Served world.cluster.resourceVersion
        (world.pass platform answers).effects →
      (world.InStep platform answers ↔ Untaken (world.pass platform answers).effects)) := by
  have versioned := world.pass_versioned platform answers
  refine ⟨versioned.current, fun nothing => ?_, fun labelled honoured served => ⟨fun inStep => ?_,
    fun untaken => ?_⟩⟩
  · by_contra taken
    exact nothing (versioned.waited taken)
  · by_contra taken
    exact (versioned.behind labelled taken honoured served).ne inStep.synced.symm
  · have stored := versioned.stored untaken served
    have current := versioned.current untaken
    refine ⟨current, versioned.synced untaken, stored, fun phase => ?_⟩
    obtain ⟨before, last⟩ := world.pass_deferred platform answers phase untaken served
    exact ⟨before, last, Holds.persisted last.symm stored current served⟩

end Passes

/-! ## A cleanup that ends while another pod waits -/

def cleaningWorld : World :=
  { pairProcess.world with
    cluster :=
      { pairProcess.world.cluster with
        status :=
          { pairProcess.world.cluster.status with
            cassandraRackStatus :=
              GoMap.ofList
                [("dc1-rack1", { idleRack with podLastOperation := cleanupRecord })] } } }

def writesConflict : WriteAnswer :=
  { update := .error .conflict, statusUpdate := .error .conflict }

/-- The cleanup of the first pod has ended, and the second pod waits for its own. -/
def takingPass : ReconcileAnswers :=
  let result := (finishedCleanup,
    [{ labelled := true, write := { update := .ok 1, statusUpdate := .ok 2 }, refreshed := none }])
  { pairPass { picks .cleanup [readyPod "demo-dc1-rack1-1"] with
      channel := [result], start := fun _ => (true, writesConflict) } with
    write := writesConflict }

/-- The cleanup of the second pod starts, but the status that lists the pod is refused:
it carries the version from before the result was recorded. -/
theorem World.pass_conflicts_with_itself :
    let pass := cleaningWorld.pass demoPlatform takingPass
    let after := cleaningWorld.step demoPlatform (.pass takingPass)
    takingPass.Labelled ∧
      Runs.Meets Effect.bump Effect.Honoured 0 pass.effects ∧
      Runs.Meets Effect.bump Effect.Served 0 pass.effects ∧
      ¬ Runs.Meets Effect.bump Effect.Current 0 pass.effects ∧
      .startOperation "dc1-rack1" "demo-dc1-rack1-1" .cleanup ∈ pass.effects ∧
      ((pass.rackStatus "dc1-rack1").map fun rack => rack.podLastOperation.pods) =
        some (some ["demo-dc1-rack1-0", "demo-dc1-rack1-1"]) ∧
      ((after.rackStatus "dc1-rack1").map fun rack => rack.podLastOperation.pods) =
        some none := by
  refine ⟨fun position result member => ?_, by decide +kernel, by decide +kernel,
    by decide +kernel, by decide +kernel, by decide +kernel, by decide +kernel⟩
  rw [List.mem_singleton.mp member]
  exact ⟨_, List.mem_singleton_self _, rfl⟩

/-- A pass that starts the first cleanup, with the versions of its writes. -/
def startingPass : ReconcileAnswers :=
  { pairPass { picks .cleanup [readyPod "demo-dc1-rack1-0"] with
      write := { update := .ok 1, statusUpdate := .ok 2 }
      start := fun _ => (true, { update := .ok 3, statusUpdate := .ok 4 }) } with
    write := { update := .ok 5, statusUpdate := .ok 6 } }

theorem World.startingPass_inStep :
    .startOperation "dc1-rack1" "demo-dc1-rack1-0" .cleanup ∈
        (pairProcess.world.pass demoPlatform startingPass).effects ∧
      pairProcess.world.InStep demoPlatform startingPass := by
  have law := World.pass_inStep_iff demoPlatform pairProcess.world startingPass
  have untaken : Untaken (pairProcess.world.pass demoPlatform startingPass).effects := by
    apply law.2.1
    rintro ⟨position, _, waiting⟩
    exact waiting rfl
  refine ⟨by decide +kernel, (law.2.2 (fun position result member => ?_) ?_ ?_).mpr untaken⟩
  · cases member
  · decide +kernel
  · decide +kernel

end Casskop
