import Casskop.Controller.Iteration

/-!
# Invariants of rack statuses

A pass holds several copies of the rack statuses: the working copy, the one in the
object, and those it writes.  A predicate that survives the changes of one rack
holds of all of them after the rack was handled.
-/

namespace Casskop

abbrev RackStatuses := GoMap CassandraRackStatus

/-- The working copy satisfies `working`, all other copies satisfy `stored`. -/
structure Satisfies (working stored : RackStatuses → Prop) (pass : Pass) : Prop where
  working : working pass.status.cassandraRackStatus
  object : stored pass.cc.status.cassandraRackStatus
  written : ∀ status succeeded, .updateClusterStatus status succeeded ∈ pass.effects →
    stored status.cassandraRackStatus

abbrev Throughout (law : RackStatuses → Prop) : Pass → Prop := Satisfies law law

/-- The predicates survive whatever handling a rack can do to it. -/
structure Stable (part : Part) (dcRackName : String)
    (working stored : RackStatuses → Prop) : Prop where
  init : ∀ racks, working racks → racks.lookup dcRackName = none →
    working (racks.insert dcRackName initialRackStatus)
  change : ∀ racks rack rack', working racks → racks.lookup dcRackName = some rack →
    part.change rack rack' → working (racks.insert dcRackName rack')
  write : ∀ racks, working racks → stored racks
  finalize : ∀ racks name rack op, stored racks → racks.lookup name = some rack →
    stored (racks.insert name (setOperation rack (updatePodLastOperation op)))

/-- The same for results the rack is known to take from the channel. -/
structure StableFor (part : Part) (dcRackName : String) (answers : RackAnswers)
    (working stored : RackStatuses → Prop) : Prop where
  init : ∀ racks, working racks → racks.lookup dcRackName = none →
    working (racks.insert dcRackName initialRackStatus)
  change : ∀ racks rack rack', working racks → racks.lookup dcRackName = some rack →
    part.change rack rack' → working (racks.insert dcRackName rack')
  write : ∀ racks, working racks → stored racks
  finalize : part.records = true → ∀ racks rack op attempts,
    (op, attempts) ∈ answers.handle.operations.channel →
    stored racks → racks.lookup op.dcRackName = some rack →
    stored (racks.insert op.dcRackName (setOperation rack (updatePodLastOperation op)))

variable {answers : RackAnswers} {rack : CassandraRackStatus}

section Rules

variable {part : Part} {dcRackName : String} {working stored : RackStatuses → Prop}
  {before after : Pass}

theorem Stable.stableFor (stable : Stable part dcRackName working stored)
    (answers : RackAnswers) : StableFor part dcRackName answers working stored :=
  ⟨stable.init, stable.change, stable.write,
    fun _ racks rack op _ _ holds found =>
      stable.finalize racks op.dcRackName rack op holds found⟩

theorem Satisfies.emit (satisfies : Satisfies working stored before) {effects : List Effect}
    (quiet : ∀ status succeeded, .updateClusterStatus status succeeded ∈ effects →
      stored status.cassandraRackStatus) :
    Satisfies working stored (before.emit effects) := by
  refine ⟨satisfies.working, satisfies.object, fun status succeeded member => ?_⟩
  rcases List.mem_append.mp member with old | new
  · exact satisfies.written status succeeded old
  · exact quiet status succeeded new

theorem Satisfies.deletePVCs (satisfies : Satisfies working stored before) :
    Satisfies working stored (before.emit (deletePVCs answers)) :=
  satisfies.emit fun status succeeded member =>
    absurd member (deletePVCs_unwritten status succeeded)

theorem updateCassandraStatus_written {needUpdate : Bool} {cc : CassandraCluster}
    {status written : CassandraClusterStatus} {answer : WriteAnswer} {succeeded : Bool}
    (member : .updateClusterStatus written succeeded ∈
      (updateCassandraStatus needUpdate cc status answer).effects) :
    written = status := by
  unfold updateCassandraStatus at member
  dsimp only at member
  split at member
  · cases member
  · simp only [List.mem_cons, reduceCtorEq, Effect.updateClusterStatus.injEq,
      List.not_mem_nil, or_false, false_or] at member
    exact member.1

theorem CassandraCluster.received_status (cc : CassandraCluster)
    (answer : Except ApiError Nat) : (cc.received answer).status = cc.status := by
  cases answer <;> rfl

theorem updateCassandraStatus_object (needUpdate : Bool) (cc : CassandraCluster)
    (status : CassandraClusterStatus) (answer : WriteAnswer) :
    (updateCassandraStatus needUpdate cc status answer).cc.status = cc.status ∨
      (updateCassandraStatus needUpdate cc status answer).cc.status = status := by
  unfold updateCassandraStatus
  dsimp only
  split
  · exact Or.inl rfl
  · exact Or.inr (CassandraCluster.received_status _ _)

theorem Satisfies.updateCassandraStatus (satisfies : Satisfies working stored before)
    (write : ∀ racks, working racks → stored racks) (answer : WriteAnswer) :
    Satisfies working stored (before.updateCassandraStatus answer) := by
  have current := write _ satisfies.working
  refine ⟨satisfies.working, ?_, fun status succeeded member => ?_⟩
  · rcases updateCassandraStatus_object before.needUpdate before.cc before.status answer
      with same | new
    · exact (congrArg CassandraClusterStatus.cassandraRackStatus same).symm ▸ satisfies.object
    · exact (congrArg CassandraClusterStatus.cassandraRackStatus new).symm ▸ current
  · rcases List.mem_append.mp member with old | new
    · exact satisfies.written status succeeded old
    · rw [updateCassandraStatus_written new]
      exact current

theorem finalizeLoop_written {status written : CassandraClusterStatus} {label : Effect}
    (quiet : ∀ status succeeded, label ≠ .updateClusterStatus status succeeded)
    {succeeded : Bool} (attempts : List FinalizeAttempt) (cc : CassandraCluster)
    (needUpdate : Bool)
    (member : .updateClusterStatus written succeeded ∈
      (finalizeLoop status label attempts cc needUpdate).effects) : written = status := by
  rcases finalizeLoop_mem attempts cc needUpdate member with labelled | ⟨_, _, _, new⟩
  · exact absurd labelled.symm (quiet written succeeded)
  · exact updateCassandraStatus_written new

theorem Satisfies.finalizeOperation (satisfies : Satisfies working stored before)
    {op : FinalizedOp}
    (finalize : ∀ racks rack, stored racks → racks.lookup op.dcRackName = some rack →
      stored (racks.insert op.dcRackName (setOperation rack (updatePodLastOperation op))))
    (attempts : List FinalizeAttempt) :
    Satisfies working stored (finalizeOperation before op attempts).pass := by
  unfold Casskop.finalizeOperation
  split
  · exact satisfies.emit (by simp)
  · rename_i rack found
    have finalized := finalize _ _ satisfies.object found
    refine ⟨satisfies.working, finalized, fun status succeeded member => ?_⟩
    rcases List.mem_append.mp member with old | new
    · exact satisfies.written status succeeded old
    · rcases List.mem_cons.mp new with impossible | later
      · cases impossible
      · rw [finalizeLoop_written (by simp) attempts _ _ later]
        exact finalized

theorem StableFor.changes (stable : StableFor part dcRackName answers working stored)
    {racks : RackStatuses} {rack' : CassandraRackStatus} (holds : working racks)
    (found : racks.lookup dcRackName = some rack)
    (changes : Relation.ReflTransGen part.change rack rack') :
    working (racks.insert dcRackName rack') := by
  induction changes with
  | refl =>
    have same : racks.insert dcRackName rack = racks := by
      apply Finmap.ext_lookup
      intro name
      by_cases equal : name = dcRackName
      · rw [equal, Finmap.lookup_insert, found]
      · exact Finmap.lookup_insert_of_ne racks equal
    rwa [same]
  | tail _ change induction =>
    have next := stable.change _ _ _ induction (Finmap.lookup_insert racks) change
    rwa [Finmap.insert_insert] at next

theorem Move.satisfiesFor (move : Move part dcRackName answers before after)
    (stable : StableFor part dcRackName answers working stored)
    (satisfies : Satisfies working stored before) : Satisfies working stored after := by
  cases move with
  | init absent =>
    exact ⟨stable.init _ satisfies.working absent, satisfies.object, satisfies.written⟩
  | rack found changes =>
    exact ⟨stable.changes satisfies.working found changes, satisfies.object,
      satisfies.written⟩
  | emit emits =>
    refine satisfies.emit fun status succeeded member => ?_
    rw [← List.mem_singleton.mp member] at emits
    cases part.isLocal emits
  | statusWrite answer records => exact satisfies.updateCassandraStatus stable.write answer
  | finalize op attempts known records =>
    exact satisfies.finalizeOperation
      (fun racks rack holds found =>
        stable.finalize records racks rack op attempts known holds found)
      attempts
  | pdb known => exact ⟨satisfies.working, satisfies.object, satisfies.written⟩
  | memory status cluster object settled unlock kept =>
    refine ⟨?_, ?_, ?_⟩
    · rw [status]
      exact satisfies.working
    · rw [object.1]
      exact satisfies.object
    · rw [kept.2]
      exact satisfies.written

theorem Moves.satisfiesFor (moves : Moves part dcRackName answers before after)
    (stable : StableFor part dcRackName answers working stored)
    (satisfies : Satisfies working stored before) : Satisfies working stored after := by
  induction moves with
  | refl => exact satisfies
  | tail _ move induction => exact move.satisfiesFor stable induction

theorem Iteration.satisfiesFor {written : List Effect}
    (iteration : Iteration part dcRackName answers written before after)
    (stable : StableFor part dcRackName answers working stored)
    (satisfies : Satisfies working stored before) : Satisfies working stored after := by
  obtain ⟨middle, first, reasons, second⟩ := iteration.split
  refine second.satisfiesFor stable ((first.satisfiesFor stable satisfies).emit ?_)
  intro status succeeded member
  cases reasons _ member

theorem Moves.satisfies (moves : Moves part dcRackName answers before after)
    (stable : Stable part dcRackName working stored)
    (satisfies : Satisfies working stored before) : Satisfies working stored after :=
  moves.satisfiesFor (stable.stableFor answers) satisfies

theorem Iteration.satisfies {written : List Effect}
    (iteration : Iteration part dcRackName answers written before after)
    (stable : Stable part dcRackName working stored)
    (satisfies : Satisfies working stored before) : Satisfies working stored after :=
  iteration.satisfiesFor (stable.stableFor answers) satisfies

end Rules

/-! ## Single changes -/

section Changes

variable {working working' stored stored' : RackStatuses → Prop} {pass : Pass}
  {dcRackName : String}

variable (satisfies : Satisfies working stored pass)

include satisfies

theorem Satisfies.mono (workings : ∀ racks, working racks → working' racks)
    (storeds : ∀ racks, stored racks → stored' racks) : Satisfies working' stored' pass :=
  ⟨workings _ satisfies.working, storeds _ satisfies.object,
    fun status succeeded member => storeds _ (satisfies.written status succeeded member)⟩

theorem Satisfies.setRackStatus
    (holds : working' (pass.status.cassandraRackStatus.insert dcRackName rack)) :
    Satisfies working' stored (pass.setRackStatus dcRackName rack) :=
  ⟨holds, satisfies.object, satisfies.written⟩

theorem Satisfies.detected {phased : CassandraRackStatus} {next : NextStatus}
    (plain : ∀ effect ∈ next.effects, effect.isPlain = true)
    (holds : working' (pass.status.cassandraRackStatus.insert dcRackName next.rack)) :
    Satisfies working' stored (pass.detected answers dcRackName phased next) := by
  refine ⟨?_, satisfies.object, fun status succeeded member => ?_⟩
  · rw [← Finmap.insert_insert (b := phased)] at holds
    exact holds
  · rcases List.mem_append.mp member with old | new
    · exact satisfies.written status succeeded old
    · cases plain _ new

theorem Satisfies.upsized {platform : Platform} {spec : CassandraClusterSpec}
    {names : CompleteRackName} {living : Option StatefulSet} {made : UpsizeStep}
    (steps : UpsizeCase platform answers.now spec names living rack answers.upsize made)
    (seen : Living answers living)
    (holds : working' (pass.status.cassandraRackStatus.insert dcRackName made.rack)) :
    Satisfies working' stored (pass.upsized dcRackName living made) := by
  refine ⟨holds, satisfies.object, fun status succeeded member => ?_⟩
  rcases List.mem_append.mp member with old | new
  · exact satisfies.written status succeeded old
  · rcases steps.effects seen pass with plain | ⟨only, single, reason⟩
    · cases plain _ new
    · rw [single, List.mem_singleton] at new
      rw [← new] at reason
      cases reason

end Changes

end Casskop
