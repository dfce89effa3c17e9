import Casskop.Controller.Updates

/-!
# One iteration of the rack loop

The status of the rack is brought up to date, its pods are operated on, and its
StatefulSet is written.  As a whole the iteration is a chain of moves, at most one
write, and moves again.
-/

namespace Casskop

variable {dcRackName : String} {answers : RackAnswers} {pass : Pass}
  {rackStatus : CassandraRackStatus}

/-! ## Pod operations -/

/-- How the pods of a rack are operated on. -/
inductive OperatePath (platform : Platform) (answers : RackAnswers)
    (names : CompleteRackName) (sts : StatefulSet) (rackStatus : CassandraRackStatus)
    (pass : Pass) : RackStep → Prop where
  | initializing (phase : rackStatus.phase = .initializing) :
      OperatePath platform answers names sts rackStatus pass
        (applyRack platform answers names pass)
  | decommission (result : PodOperationResult)
      (scaling : weAreScalingDown rackStatus = true)
      (step : DecommissionStep answers.now pass names.dcRackName rackStatus
        answers.handle.decommission (isStatefulSetReady sts) result) :
      OperatePath platform answers names sts rackStatus pass
        (afterOperation platform answers names result)
  | operation (result : PodOperationResult) (idle : weAreScalingDown rackStatus = false)
      (made : result = handlePodOperation platform answers.now pass names.dcRackName rackStatus
        answers.handle (isStatefulSetReady sts))
      (moves : Moves (.operating names.dcRackName) names.dcRackName answers pass result.pass)
      (kept : KeepsRack names.dcRackName rackStatus result.pass) :
      OperatePath platform answers names sts rackStatus pass
        (afterOperation platform answers names result)

theorem operateRack_path (platform : Platform) (names : CompleteRackName)
    (sts : StatefulSet) (found : pass.rackStatus names.dcRackName = some rackStatus) :
    OperatePath platform answers names sts rackStatus pass
      (operateRack platform answers names sts rackStatus pass) := by
  unfold operateRack
  split
  · rename_i phase
    exact .initializing phase
  · cases scaling : weAreScalingDown rackStatus with
    | true =>
      refine .decommission _ scaling ?_
      unfold handlePodOperation
      rw [if_pos scaling]
      exact ensureDecommission_step
    | false =>
      obtain ⟨moves, kept⟩ := @handlePodOperation_moves names.dcRackName answers pass
        rackStatus platform (isStatefulSetReady sts) scaling found
      exact .operation _ scaling rfl moves kept

variable {spec : CassandraClusterSpec}

theorem afterOperation_outcome {result : PodOperationResult} (platform : Platform)
    (names : CompleteRackName)
    (moves : Moves (.ordinary spec names.dcRackName answers) names.dcRackName answers pass
      result.pass) :
    Outcome (.ordinary spec names.dcRackName answers) platform answers names pass
      (afterOperation platform answers names result) := by
  have idle : ∀ flow, flow ≠ .nextRack →
      Outcome (.ordinary spec names.dcRackName answers) platform answers names pass
        { pass := result.pass, flow := flow } :=
    fun flow stops => .ordinary [] _ (.ofStop (.ofMoves moves) stops) (by simp)
  unfold afterOperation
  split
  · exact idle .fault (by simp)
  · exact idle .hang (by simp)
  · exact ((applyRack_outcome platform names result.pass).within
      Part.updating_within).after_moves moves
  · split
    · exact idle .fault (by simp)
    · rename_i current still
      refine .ordinary [] _ ⟨.ofMoves moves, fun nonempty => absurd rfl nonempty, fun next => ?_⟩
        (by simp)
      refine ⟨current, still, ?_⟩
      have free : waitsForNextPass current = false := by
        cases waits : waitsForNextPass current with
        | false => rfl
        | true => simp [waits] at next
      simp only [waitsForNextPass, Bool.or_eq_false_iff, bne_eq_false_iff_eq,
        beq_eq_false_iff_ne] at free
      exact ⟨free.1.1.1, free.1.2⟩

variable {sts : StatefulSet}

theorem OperatePath.outcome {platform : Platform} {names : CompleteRackName} {step : RackStep}
    (path : OperatePath platform answers names sts rackStatus pass step)
    (found : pass.rackStatus names.dcRackName = some rackStatus) :
    Outcome (.ordinary spec names.dcRackName answers) platform answers names pass step := by
  cases path with
  | initializing phase =>
    exact (applyRack_outcome platform names pass).within Part.updating_within
  | decommission result scaling step =>
    exact afterOperation_outcome platform names
      ((step.moves found scaling).within Part.decommissioning_within)
  | operation result idle made moves kept =>
    exact afterOperation_outcome platform names (moves.within Part.operating_within)

/-! ## The way of a rack -/

theorem Pass.rackStatus_applyNext (pass : Pass) (dcRackName : String) (next : NextStatus) :
    (pass.applyNext dcRackName next).rackStatus dcRackName = some next.rack :=
  Pass.rackStatus_setRackStatus pass dcRackName next.rack

theorem Pass.applyNext_moves {next : NextStatus}
    (found : pass.rackStatus dcRackName = some rackStatus)
    (changes : ObservedChanges spec dcRackName answers rackStatus next.rack)
    (effects : ∀ effect ∈ next.effects, effect.isPlain = true)
    (settled : next.spec.settled = pass.cc.spec.settled)
    (unlock : next.spec.unlockNextOperation = pass.cc.spec.unlockNextOperation) :
    Moves (.observing spec dcRackName answers) dcRackName answers pass
      (pass.applyNext dcRackName next) := by
  have start : Moves (.observing spec dcRackName answers) dcRackName answers pass pass := .refl
  refine ((start.rack found changes).emit effects).tail
    (.memory rfl rfl ⟨rfl, rfl⟩ settled ?_ ⟨rfl, rfl⟩ ⟨rfl, rfl⟩)
  exact fun unlocked => unlock.symm.trans unlocked

/-- The pass when the phase of the rack has been updated. -/
def Pass.phased (pass : Pass) (answers : RackAnswers) (dcRackName : String)
    (rackStatus : CassandraRackStatus) : Pass :=
  (pass.setRackStatus dcRackName rackStatus).receivePdb answers.leftover.beforeDetection

/-- The pass when the next status of the rack is known. -/
def Pass.detected (pass : Pass) (answers : RackAnswers) (dcRackName : String)
    (rackStatus : CassandraRackStatus) (next : NextStatus) : Pass :=
  (pass.phased answers dcRackName rackStatus).applyNext dcRackName next

/-- The way an iteration takes when the rack has the status `rackStatus`. -/
inductive RackPath (platform : Platform) (answers : RackAnswers) (dc rack : Nat)
    (names : CompleteRackName) (rackStatus : CassandraRackStatus) (pass : Pass) :
    RackStep → Prop where
  | unread (failed : ∀ sts, answers.statefulSet ≠ .ok sts) :
      RackPath platform answers dc rack names rackStatus pass
        (applyRack platform answers names pass)
  | phaseFault :
      RackPath platform answers dc rack names rackStatus pass { pass := pass, flow := .fault }
  | observed (sts : StatefulSet) (phased : CassandraRackStatus) (next : NextStatus)
      (read : answers.statefulSet = .ok sts)
      (phase : updateCassandraRackStatusPhase answers.now pass.cc.spec names.dcRackName sts
        rackStatus answers.phasePods = .updated phased)
      (action : getNextCassandraClusterStatus platform answers.now
        (pass.phased answers names.dcRackName phased) dc rack sts phased answers.next = next)
      (step : RackStep)
      (path : next.fault = true ∧
          step = { pass := pass.detected answers names.dcRackName phased next, flow := .fault } ∨
        OperatePath platform answers names sts next.rack
          (pass.detected answers names.dcRackName phased next) step) :
      RackPath platform answers dc rack names rackStatus pass step

section Way

variable (platform : Platform) (dc rack : Nat)

theorem observed_moves {names : CompleteRackName} {phased : CassandraRackStatus} {next : NextStatus}
    (here : pass.cc.spec.completeRackName dc rack = names) (read : answers.statefulSet = .ok sts)
    (found : pass.rackStatus names.dcRackName = some rackStatus)
    (phase : updateCassandraRackStatusPhase answers.now pass.cc.spec names.dcRackName sts rackStatus
      answers.phasePods = .updated phased)
    (action : getNextCassandraClusterStatus platform answers.now
      (pass.phased answers names.dcRackName phased) dc rack sts phased answers.next = next) :
    Moves (.observing pass.cc.spec names.dcRackName answers) names.dcRackName answers pass
        (pass.detected answers names.dcRackName phased next) ∧
      ObservedChanges pass.cc.spec names.dcRackName answers rackStatus next.rack := by
  have start : Moves (.observing pass.cc.spec names.dcRackName answers) names.dcRackName answers
    pass pass := .refl
  have first := updateCassandraRackStatusPhase_changes read phase
  have received := (start.rack found first).trans
    (Pass.receivePdb_moves _ fun read written => Or.inl written)
  have current := Pass.rackStatus_setRackStatus pass names.dcRackName phased
  subst here
  obtain ⟨changes, effects, settled, unlock⟩ := getNextCassandraClusterStatus_changes platform
    (pass.phased answers _ phased) dc rack phased read
  rw [action] at changes effects settled unlock
  exact ⟨received.trans (Pass.applyNext_moves current changes effects settled unlock),
    first.trans changes⟩

theorem observeRack_path (read : answers.statefulSet = .ok sts) :
    RackPath platform answers dc rack (pass.cc.spec.completeRackName dc rack) rackStatus pass
      (observeRack platform answers dc rack (pass.cc.spec.completeRackName dc rack) sts
        rackStatus pass) := by
  unfold observeRack
  split
  · exact .phaseFault
  · rename_i phased phase
    refine .observed sts phased _ read phase rfl _ ?_
    dsimp only
    split
    · rename_i faulty
      exact Or.inl ⟨faulty, rfl⟩
    · exact Or.inr (operateRack_path platform _ sts (Pass.rackStatus_applyNext _ _ _))

/-- The way of a rack with a status, on a cluster that is not being deleted. -/
theorem reconcileRackAt_path (answers : RackAnswers)
    (named : (pass.cc.spec.completeRackName dc rack).dcRackName ≠ "")
    (found : pass.rackStatus (pass.cc.spec.completeRackName dc rack).dcRackName =
      some rackStatus) (alive : deletesPVCs pass.cc = false) :
    RackPath platform answers dc rack (pass.cc.spec.completeRackName dc rack) rackStatus pass
      (reconcileRackAt platform answers dc rack pass) := by
  unfold reconcileRackAt
  dsimp only
  rw [if_neg named, found]
  dsimp only
  rw [if_neg (by simp [alive])]
  split
  · rename_i failed
    exact .unread (by simp [failed])
  · rename_i sts read
    exact observeRack_path platform dc rack read

theorem RackPath.outcome {platform : Platform} {dc rack : Nat} {names : CompleteRackName}
    {step : RackStep} (path : RackPath platform answers dc rack names rackStatus pass step)
    (here : pass.cc.spec.completeRackName dc rack = names)
    (found : pass.rackStatus names.dcRackName = some rackStatus) :
    Outcome (.ordinary pass.cc.spec names.dcRackName answers) platform answers names pass step := by
  cases path with
  | unread failed =>
    exact (applyRack_outcome platform names pass).within Part.updating_within
  | phaseFault => exact .ordinary [] _ (.ofStop (.ofMoves .refl) (by simp)) (by simp)
  | observed sts phased next read phase action step path =>
    obtain ⟨moves, _⟩ := observed_moves platform dc rack here read found phase action
    have onward := moves.within Part.observing_within
    rcases path with ⟨_, rfl⟩ | path
    · exact .ordinary [] _ (.ofStop (.ofMoves onward) (by simp)) (by simp)
    · exact (path.outcome (Pass.rackStatus_applyNext _ _ _)).after_moves onward

end Way

/-- The ways an iteration can go. -/
inductive IterationCase (platform : Platform) (answers : RackAnswers) (dc rack : Nat)
    (pass : Pass) : RackStep → Prop where
  | nameless (empty : (pass.cc.spec.completeRackName dc rack).dcRackName = "") :
      IterationCase platform answers dc rack pass { pass := pass, flow := .fail }
  | added
      (absent : pass.rackStatus (pass.cc.spec.completeRackName dc rack).dcRackName = none) :
      IterationCase platform answers dc rack pass
        { pass := pass.setRackStatus (pass.cc.spec.completeRackName dc rack).dcRackName
            initialRackStatus
          flow := .nextRack
          newStatus := true }
  | deleting (deletes : deletesPVCs pass.cc = true) :
      IterationCase platform answers dc rack pass
        { pass := pass.emit (deletePVCs answers), flow := .nextRack }
  | handled (rackStatus : CassandraRackStatus) (written : List Effect) (step : RackStep)
      (found : pass.rackStatus (pass.cc.spec.completeRackName dc rack).dcRackName =
        some rackStatus)
      (alive : deletesPVCs pass.cc = false)
      (handled : Handled (.handling pass.cc.spec
          (pass.cc.spec.completeRackName dc rack).dcRackName answers)
        (pass.cc.spec.completeRackName dc rack).dcRackName answers written pass step)
      (path : RackPath platform answers dc rack (pass.cc.spec.completeRackName dc rack)
        rackStatus pass step) :
      IterationCase platform answers dc rack pass step

theorem reconcileRackAt_case (platform : Platform) (answers : RackAnswers) (dc rack : Nat)
    (pass : Pass) :
    IterationCase platform answers dc rack pass
      (reconcileRackAt platform answers dc rack pass) := by
  have path := fun rackStatus => @reconcileRackAt_path pass rackStatus platform dc rack
    answers
  unfold reconcileRackAt at path ⊢
  dsimp only at path ⊢
  split
  · rename_i empty
    exact .nameless empty
  rename_i named
  split
  · rename_i absent
    exact .added absent
  · rename_i rackStatus found
    split
    · rename_i deletes
      exact .deleting deletes
    · rename_i notDeleting
      have alive : deletesPVCs pass.cc = false := by simpa using notDeleting
      have way := path rackStatus named found alive
      rw [if_neg named, found] at way
      dsimp only at way
      rw [if_neg notDeleting] at way
      obtain ⟨written, handled⟩ := (way.outcome rfl found).handled Part.ordinary_within
      exact .handled rackStatus written _ found alive handled way

/-- What holds between the iterations that go on, and after the one that ends the
loop. -/
theorem reconcileRacks_ends {between final : Pass → Prop} (platform : Platform)
    (answers : Nat × Nat → RackAnswers) (positions : List (Nat × Nat))
    (goes : ∀ position ∈ positions, ∀ pass step, between pass →
      IterationCase platform (answers position) position.1 position.2 pass step →
      step.flow = .nextRack → between step.pass)
    (ends : ∀ position ∈ positions, ∀ pass step, between pass →
      IterationCase platform (answers position) position.1 position.2 pass step →
      step.flow ≠ .nextRack → final step.pass)
    (done : ∀ pass, between pass → final pass) :
    ∀ (pass : Pass) (newStatus : Bool), between pass →
      final (reconcileRacks platform answers positions pass newStatus).pass := by
  induction positions with
  | nil => exact fun pass newStatus holds => done pass holds
  | cons position rest induction =>
    intro pass newStatus holds
    have iteration := reconcileRackAt_case platform (answers position) position.1 position.2
      pass
    unfold reconcileRacks
    dsimp only
    split
    · rename_i goesOn
      exact induction (fun other member => goes other (List.mem_cons_of_mem _ member))
        (fun other member => ends other (List.mem_cons_of_mem _ member)) _ _
        (goes position List.mem_cons_self pass _ holds iteration goesOn)
    · rename_i stops
      have last := ends position List.mem_cons_self pass _ holds iteration stops
      exact last

/-- What every iteration keeps, the loop keeps. -/
theorem reconcileRacks_invariant {invariant : Pass → Prop} (platform : Platform)
    (answers : Nat × Nat → RackAnswers) (positions : List (Nat × Nat))
    (kept : ∀ position ∈ positions, ∀ pass step, invariant pass →
      IterationCase platform (answers position) position.1 position.2 pass step →
      invariant step.pass) :
    ∀ (pass : Pass) (newStatus : Bool), invariant pass →
      invariant (reconcileRacks platform answers positions pass newStatus).pass :=
  reconcileRacks_ends platform answers positions
    (fun position member pass step holds iteration _ =>
      kept position member pass step holds iteration)
    (fun position member pass step holds iteration _ =>
      kept position member pass step holds iteration)
    fun _ holds => holds

/-! ## Frames -/

theorem Effect.writtenRack_of_isLocal {effect : Effect} (isLocal : effect.isLocal = true) :
    effect.writtenRack = none := by
  cases effect <;> first | rfl | cases isLocal

theorem finalizeLoop_quiet {status : CassandraClusterStatus} {label : Effect}
    (quiet : label.writtenRack = none) (attempts : List FinalizeAttempt)
    (cc : CassandraCluster) (needUpdate : Bool) :
    ∀ effect ∈ (finalizeLoop status label attempts cc needUpdate).effects,
      effect.writtenRack = none := by
  intro effect member
  rcases finalizeLoop_mem attempts cc needUpdate member with rfl | ⟨_, _, _, written⟩
  · exact quiet
  · obtain ⟨_, _, unwritten⟩ := updateCassandraStatus_quiet _ _ _ _
    exact unwritten effect written

theorem finalizeOperation_frame (dcRackName : String) (pass : Pass) (op : FinalizedOp)
    (attempts : List FinalizeAttempt) :
    Frame dcRackName [] pass (finalizeOperation pass op attempts).pass := by
  have start := Frame.refl dcRackName pass
  unfold finalizeOperation
  split
  · exact start.emitQuiet (by simp [Effect.writtenRack])
  · rename_i rack found
    have quiet : ∀ (recorded : Option PodLastOperation) (status : CassandraClusterStatus)
        (labels : List (String × String)), ∀ effect ∈ Effect.finalizeOperation op recorded ::
          (finalizeLoop status (.labelPod op.pod labels) attempts pass.cc pass.needUpdate).effects,
        effect.writtenRack = none := by
      intro recorded status labels effect member
      rcases List.mem_cons.mp member with rfl | later
      · rfl
      · exact finalizeLoop_quiet rfl attempts pass.cc pass.needUpdate effect later
    exact (start.emitQuiet (quiet _ _ _)).congr rfl rfl rfl rfl id rfl

section MoveFrame

variable {part : Part} {before after : Pass}

theorem Move.frame (move : Move part dcRackName answers before after) :
    Frame dcRackName [] before after := by
  have start := Frame.refl dcRackName before
  cases move with
  | init absent => exact start.setRackStatus initialRackStatus
  | rack found changes => exact start.setRackStatus _
  | emit emits =>
    exact start.emitQuiet (by simpa using Effect.writtenRack_of_isLocal (part.isLocal emits))
  | statusWrite answer records => exact start.updateCassandraStatus answer
  | finalize op attempts known records =>
    exact finalizeOperation_frame dcRackName before op attempts
  | pdb known => exact start.congr rfl rfl rfl rfl id rfl
  | memory status cluster object settled unlock kept =>
    exact start.congr status cluster object.2 settled unlock kept.2

theorem Moves.frame (moves : Moves part dcRackName answers before after) :
    Frame dcRackName [] before after := by
  induction moves with
  | refl => exact Frame.refl dcRackName before
  | tail _ move induction => exact induction.trans move.frame

theorem Iteration.frame {written : List Effect}
    (iteration : Iteration part dcRackName answers written before after) :
    Frame dcRackName written before after := by
  obtain ⟨middle, first, reasons, second⟩ := iteration.split
  have isWrite : (written.filter fun effect => effect.writtenRack.isSome) = written := by
    apply List.filter_eq_self.mpr
    intro effect member
    simp [(reasons effect member).writtenRack]
  have wrote := first.frame.emit written
  rw [isWrite, List.nil_append] at wrote
  exact wrote.transQuiet second.frame

end MoveFrame

end Casskop
