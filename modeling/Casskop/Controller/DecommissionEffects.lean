import Casskop.Controller.Operations

/-!
# What comes from `ensureDecommission`

A decommission is started, a pod is let go and a claim is deleted in `ensureDecommission`
and nowhere else while a cluster lives.  Whoever finds one of these effects in a pass gets
the call it comes from.
-/

namespace Casskop

def Effect.isDecommission : Effect → Bool
  | .startDecommission .. | .passDecommission .. | .deletePVC .. => true
  | _ => false

/-! ## Parts of an iteration -/

variable {pass : Pass} {platform : Platform} {names : CompleteRackName}
  {result : PodOperationResult}

section Moves

variable {part : Part} {dcRackName : String} {answers : RackAnswers} {before after : Pass}
  {effect : Effect}

/-- The part takes no step of a decommission. -/
def Part.Uninvolved (part : Part) : Prop :=
  ∀ effect, part.emits effect = true → effect.isDecommission = false

theorem Effect.isDecommission_of_isPlain (plain : effect.isPlain = true) :
    effect.isDecommission = false := by
  cases effect <;> first | rfl | cases plain

theorem Part.observing_uninvolved (spec : CassandraClusterSpec) :
    (Part.observing spec dcRackName answers).Uninvolved :=
  fun _ => Effect.isDecommission_of_isPlain

theorem Part.updating_uninvolved : (Part.updating answers).Uninvolved :=
  fun _ => Effect.isDecommission_of_isPlain

theorem Part.operating_uninvolved : (Part.operating dcRackName).Uninvolved := by
  intro effect operation
  rcases Bool.or_eq_true_iff.mp operation with plain | own
  · exact Effect.isDecommission_of_isPlain plain
  · cases effect <;> first | rfl | simp [Effect.spawnedRack] at own

theorem Effect.isDecommission_of_isOuter (outer : effect.isOuter = true) :
    effect.isDecommission = false := by
  cases effect <;> first | rfl | cases outer

theorem updateCassandraStatus_uninvolved {needUpdate : Bool} {cc : CassandraCluster}
    {status : CassandraClusterStatus} {answer : WriteAnswer}
    (member : effect ∈ (updateCassandraStatus needUpdate cc status answer).effects) :
    effect.isDecommission = false :=
  Effect.isDecommission_of_isOuter (updateCassandraStatus_outer _ _ _ _ effect member).1

theorem finalizeOperation_uninvolved {op : FinalizedOp} {attempts : List FinalizeAttempt}
    (member : effect ∈ (finalizeOperation pass op attempts).pass.effects) :
    effect ∈ pass.effects ∨ effect.isDecommission = false := by
  unfold finalizeOperation at member
  split at member
  · refine (List.mem_append.mp member).imp_right fun new => ?_
    rw [List.mem_singleton.mp new]
    rfl
  · refine (List.mem_append.mp member).imp_right fun new => ?_
    rcases List.mem_cons.mp new with rfl | later
    · rfl
    · rcases finalizeLoop_mem attempts _ _ later with rfl | ⟨_, _, _, written⟩
      · rfl
      · exact updateCassandraStatus_uninvolved written

theorem Move.decommission (move : Move part dcRackName answers before after)
    (uninvolved : part.Uninvolved) (member : effect ∈ after.effects)
    (involved : effect.isDecommission = true) : effect ∈ before.effects := by
  have other : effect.isDecommission ≠ false := by simp [involved]
  cases move with
  | init | rack | pdb => exact member
  | emit emits =>
    rcases List.mem_append.mp member with old | new
    · exact old
    · rw [List.mem_singleton.mp new] at other
      exact absurd (uninvolved _ emits) other
  | statusWrite answer records =>
    rcases List.mem_append.mp member with old | new
    · exact old
    · exact absurd (updateCassandraStatus_uninvolved new) other
  | finalize op attempts known records =>
    exact (finalizeOperation_uninvolved member).resolve_right other
  | memory status cluster object settled unlock kept => exact kept.2 ▸ member

theorem Moves.decommission (moves : Moves part dcRackName answers before after)
    (uninvolved : part.Uninvolved) (member : effect ∈ after.effects)
    (involved : effect.isDecommission = true) : effect ∈ before.effects := by
  induction moves with
  | refl => exact member
  | tail _ move induction => exact induction (move.decommission uninvolved member involved)

theorem WriteReason.uninvolved (reason : WriteReason dcRackName answers pass effect) :
    effect.isDecommission = false := by
  cases reason <;> rfl

theorem applyRack_decommission
    (member : effect ∈ (applyRack platform answers names pass).pass.effects)
    (involved : effect.isDecommission = true) : effect ∈ pass.effects := by
  have other : effect.isDecommission ≠ false := by simp [involved]
  have outcome := @applyRack_outcome answers platform names pass
  generalize applyRack platform answers names pass = step at outcome member
  cases outcome with
  | ordinary written step handled gated =>
    obtain ⟨middle, first, reasons, second⟩ := handled.iteration.split
    rcases List.mem_append.mp (second.decommission Part.updating_uninvolved member involved)
      with old | new
    · exact first.decommission Part.updating_uninvolved old involved
    · exact absurd (reasons effect new).uninvolved other
  | upsize middle rack living made moves found upsizing seen steps =>
    rcases List.mem_append.mp member with old | new
    · exact moves.decommission Part.updating_uninvolved old involved
    · rcases steps.effects seen middle with plain | ⟨only, single, reason⟩
      · exact absurd (Effect.isDecommission_of_isPlain (plain effect new)) other
      · rw [single] at new
        rw [List.mem_singleton.mp new] at other
        exact absurd reason.uninvolved other

/-- Pod operations that do not go on to the StatefulSet are the end of the iteration. -/
theorem afterOperation_pass (stops : result.flow ≠ .continueResyncLoop) :
    (afterOperation platform answers names result).pass = result.pass := by
  unfold afterOperation
  split
  · rfl
  · rfl
  · rename_i goesOn
    exact absurd goesOn stops
  · split <;> rfl

theorem afterOperation_continue (goesOn : result.flow = .continueResyncLoop) :
    afterOperation platform answers names result =
      applyRack platform answers names result.pass := by
  unfold afterOperation
  rw [goesOn]

theorem afterOperation_decommission
    (member : effect ∈ (afterOperation platform answers names result).pass.effects)
    (involved : effect.isDecommission = true) : effect ∈ result.pass.effects := by
  by_cases goesOn : result.flow = .continueResyncLoop
  · rw [afterOperation_continue goesOn] at member
    exact applyRack_decommission member involved
  · rwa [afterOperation_pass goesOn] at member

end Moves

/-! ## The call -/

section Calls

variable {platform : Platform} {answers : RackAnswers} {pass : Pass} {effect : Effect}

/-- The effect comes from the call of `ensureDecommission` on a rack that is scaling down. -/
inductive FromDecommission (platform : Platform) (answers : RackAnswers)
    (names : CompleteRackName) (rack : CassandraRackStatus) (pass : Pass) (step : RackStep)
    (effect : Effect) : Prop where
  | call (sts : StatefulSet) (rack' : CassandraRackStatus) (middle : Pass)
      (result : PodOperationResult) (read : answers.statefulSet = .ok sts)
      (changes : ObservedChanges pass.cc.spec names.dcRackName answers rack rack')
      (moves : Moves (.observing pass.cc.spec names.dcRackName answers) names.dcRackName answers
        pass middle)
      (found : middle.rackStatus names.dcRackName = some rack')
      (scaling : weAreScalingDown rack' = true)
      (called : DecommissionStep answers.now middle names.dcRackName rack'
        answers.handle.decommission (isStatefulSetReady sts) result)
      (new : effect ∉ middle.effects) (member : effect ∈ result.pass.effects)
      (made : step = afterOperation platform answers names result)

theorem RackPath.decommission {dcAt rackAt : Nat} {names : CompleteRackName}
    {rack : CassandraRackStatus} {step : RackStep}
    (path : RackPath platform answers dcAt rackAt names rack pass step)
    (here : pass.cc.spec.completeRackName dcAt rackAt = names)
    (found : pass.rackStatus names.dcRackName = some rack)
    (member : effect ∈ step.pass.effects) (involved : effect.isDecommission = true) :
    effect ∈ pass.effects ∨
      FromDecommission platform answers names rack pass step effect := by
  cases path with
  | unread failed => exact Or.inl (applyRack_decommission member involved)
  | phaseFault => exact Or.inl member
  | observed sts phased next read phase action step path =>
    obtain ⟨moves, changes⟩ := observed_moves platform dcAt rackAt here read found phase action
    have before := fun member =>
      moves.decommission (Part.observing_uninvolved _) member involved
    rcases path with ⟨_, rfl⟩ | path
    · exact Or.inl (before member)
    · cases path with
      | initializing phase => exact Or.inl (before (applyRack_decommission member involved))
      | operation result idle made later kept =>
        exact Or.inl (before (later.decommission Part.operating_uninvolved
          (afterOperation_decommission member involved) involved))
      | decommission result scaling called =>
        by_cases old : effect ∈ (pass.detected answers names.dcRackName phased next).effects
        · exact Or.inl (before old)
        · exact Or.inr (.call sts next.rack _ result read changes moves
            (Pass.rackStatus_applyNext _ _ _) scaling called old
            (afterOperation_decommission member involved) rfl)

theorem IterationCase.decommission {position : Nat × Nat} {step : RackStep}
    (iteration : IterationCase platform answers position.1 position.2 pass step)
    (member : effect ∈ step.pass.effects) (involved : effect.isDecommission = true) :
    effect ∈ pass.effects ∨ deletesPVCs pass.cc = true ∧ effect ∈ deletePVCs answers ∨
      ∃ rack ∈ pass.rackStatus (pass.cc.spec.rackNameAt position),
        FromDecommission platform answers
          (pass.cc.spec.completeRackName position.1 position.2) rack pass step effect := by
  cases iteration with
  | nameless empty => exact Or.inl member
  | added absent => exact Or.inl member
  | deleting deletes =>
    exact (List.mem_append.mp member).imp_right fun new => Or.inl ⟨deletes, new⟩
  | handled rack written step found alive handled path =>
    exact (path.decommission rfl found member involved).imp_right fun called =>
      Or.inr ⟨rack, found, called⟩

end Calls

end Casskop
