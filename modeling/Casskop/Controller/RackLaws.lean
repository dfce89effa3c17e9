import Casskop.Controller.Bookkeeping
import Casskop.Controller.OneOngoing

/-!
# Laws of rack statuses

A law says something of the status of each rack by itself.  When no change made to a rack
breaks it, it holds of all the copies of the status a pass has, and of the stored one.
-/

namespace Casskop

def AllRacks (law : String → CassandraRackStatus → Prop) (racks : RackStatuses) : Prop :=
  ∀ name rack, racks.lookup name = some rack → law name rack

/-- The law holds of new racks, and neither a change that keeps the record nor storing the
rack breaks it. -/
structure RecordLaw (law : String → CassandraRackStatus → Prop) : Prop where
  initial : ∀ name, law name initialRackStatus
  kept : ∀ name rack rack', RecordKept rack rack' → law name rack → law name rack'
  serialized : ∀ name rack, law name rack → law name rack.serialized

/-- Nothing but the steps of a decommission can break the law. -/
structure RackLaw (law : String → CassandraRackStatus → Prop) : Prop extends RecordLaw law where
  asked : ∀ name now old rack,
    rack.podLastOperation = (setDecommissionStatus now old).podLastOperation → law name rack
  operated : ∀ name rack operation, weAreScalingDown rack = false →
    operation.status = .ongoing ∨ operation.status = .done →
    law name { rack with podLastOperation := operation }
  finalized : ∀ name op rack, law name rack →
    law name (setOperation rack (updatePodLastOperation op))

section Laws

variable {law : String → CassandraRackStatus → Prop} {racks : RackStatuses} {name : String}
  {rack : CassandraRackStatus}

namespace AllRacks

theorem insert (holds : AllRacks law racks) (good : law name rack) :
    AllRacks law (racks.insert name rack) := by
  intro other found present
  by_cases same : other = name
  · subst same
    rw [Finmap.lookup_insert, Option.some.injEq] at present
    exact present ▸ good
  · rw [Finmap.lookup_insert_of_ne _ same] at present
    exact holds other found present

theorem ofInitial (laws : RecordLaw law) (initial : AllInitial racks) : AllRacks law racks := by
  intro name rack found
  rw [initial name rack found]
  exact laws.initial name

theorem serialized (holds : AllRacks law racks) (laws : RecordLaw law) :
    AllRacks law (racks.mapValues CassandraRackStatus.serialized) := by
  intro name rack found
  rw [GoMap.lookup_mapValues] at found
  obtain ⟨stored, present, rfl⟩ := Option.map_eq_some_iff.mp found
  exact laws.serialized name stored (holds name stored present)

theorem flagged {flags : Prop} {before : RackStatuses} (holds : AllRacks law before)
    (laws : RecordLaw law) (flagged : FromFlagged flags before racks) : AllRacks law racks := by
  intro name rack found
  rcases flagged name rack found with kept | ⟨old, now, _, present, rfl⟩
  · exact holds name rack kept
  · refine laws.kept name old _ ⟨rfl, fun scaling => ?_⟩ (holds name old present)
    simp [weAreScalingDown_eq, flagUpdateResources] at scaling

theorem seedListToDo (holds : AllRacks law racks) (laws : RecordLaw law)
    (found : racks.lookup name = some rack) :
    AllRacks law (racks.insert name (seedListToDo rack)) := by
  refine holds.insert (laws.kept name rack _ ?_ (holds name rack found))
  unfold Casskop.seedListToDo
  split
  · exact ⟨rfl, id⟩
  · exact ⟨rfl, fun scaling => by simp [weAreScalingDown_eq] at scaling⟩

end AllRacks

/-! ## One rack -/

section Rack

variable {spec : CassandraClusterSpec} {dcRackName : String} {answers : RackAnswers}
  {platform : Platform} {pass : Pass} {rack' : CassandraRackStatus}

theorem RackLaw.observed (laws : RackLaw law)
    (change : ObservedChange spec dcRackName answers rack rack') (holds : law name rack) :
    law name rack' := by
  rcases change.record_cases with kept | ⟨_, old, record⟩
  · exact laws.kept name rack rack' kept holds
  · exact laws.asked name answers.now old rack' record

theorem RackLaw.observedAll (laws : RackLaw law)
    (changes : ObservedChanges spec dcRackName answers rack rack') (holds : law name rack) :
    law name rack' := by
  induction changes with
  | refl => exact holds
  | tail _ change induction => exact laws.observed change induction

theorem RecordLaw.updating (laws : RecordLaw law) (dcRackName : String) :
    StableFor (.updating answers) dcRackName answers (AllRacks law) (AllRacks law) := by
  refine ⟨fun racks holds _ => holds.insert (laws.initial dcRackName),
    fun racks rack rack' holds found change => ?_, fun racks holds => holds,
    fun records => by cases records⟩
  exact holds.insert (laws.kept _ rack rack' (UpdateChange.recordKept change)
    (holds dcRackName rack found))

theorem RecordLaw.applyRack (laws : RecordLaw law) (names : CompleteRackName)
    (satisfies : Throughout (AllRacks law) pass) :
    Throughout (AllRacks law) (applyRack platform answers names pass).pass := by
  have outcome := @applyRack_outcome answers platform names pass
  generalize Casskop.applyRack platform answers names pass = step at outcome
  cases outcome with
  | ordinary written step handled gated =>
    exact handled.iteration.satisfiesFor (laws.updating _) satisfies
  | upsize middle rack living made moves found upsizing seen steps =>
    have reached := moves.satisfiesFor (laws.updating _) satisfies
    refine reached.upsized steps seen (reached.working.insert ?_)
    have pending := laws.kept _ rack { rack with phase := .pending } ⟨rfl, id⟩
      (reached.working _ rack found)
    exact laws.kept _ _ _ (UpsizeChanges.recordKept (steps.changes rfl upsizing)) pending

theorem RecordLaw.afterOperation (laws : RecordLaw law) (names : CompleteRackName)
    {result : PodOperationResult} (satisfies : Throughout (AllRacks law) result.pass) :
    Throughout (AllRacks law)
      (afterOperation platform answers names result).pass := by
  unfold Casskop.afterOperation
  split
  · exact satisfies
  · exact satisfies
  · exact laws.applyRack names satisfies
  · split <;> exact satisfies

/-- It is enough that the changes of the part keep the law. -/
theorem RackLaw.stable (laws : RackLaw law) {part : Part} (keeps : ∀ rack rack',
    law dcRackName rack → part.change rack rack' → law dcRackName rack') :
    Stable part dcRackName (AllRacks law) (AllRacks law) := by
  refine ⟨fun racks holds _ => holds.insert (laws.initial dcRackName),
    fun racks rack rack' holds found change => ?_, fun racks holds => holds,
    fun racks name rack op holds found => ?_⟩
  · exact holds.insert (keeps rack rack' (holds dcRackName rack found) change)
  · exact holds.insert (laws.finalized name op rack (holds name rack found))

theorem RackLaw.observing (laws : RackLaw law) :
    Stable (.observing spec dcRackName answers) dcRackName (AllRacks law) (AllRacks law) :=
  laws.stable fun _ _ before change => laws.observed change before

theorem RackLaw.operating (laws : RackLaw law) (dcRackName : String) :
    Stable (.operating dcRackName) dcRackName (AllRacks law) (AllRacks law) := by
  refine laws.stable fun rack rack' before change => ?_
  cases change with
  | operate operation idle status => exact laws.operated dcRackName rack operation idle status

/-- The steps of a decommission keep the law. -/
def RackAnswers.Keeps (answers : RackAnswers) (dcRackName : String)
    (law : String → CassandraRackStatus → Prop) : Prop :=
  ∀ rack rack', DecommissionChange answers rack rack' → law dcRackName rack →
    law dcRackName rack'

theorem RackLaw.handling (laws : RackLaw law) (keeps : answers.Keeps dcRackName law) :
    Stable (.handling spec dcRackName answers) dcRackName (AllRacks law) (AllRacks law) := by
  refine laws.stable fun rack rack' before change => ?_
  cases change with
  | ordinary change =>
    cases change with
    | observed change => exact laws.observed change before
    | decommission change => exact keeps rack rack' change before
    | operation change =>
      cases change with
      | operate operation idle status => exact laws.operated dcRackName rack operation idle status
    | update change => exact laws.kept _ rack rack' change.recordKept before
  | upsize change => exact laws.kept _ rack rack' change.recordKept before

end Rack

/-! ## The loop -/

theorem IterationCase.allRacks {platform : Platform} {answers : RackAnswers} {position : Nat × Nat}
    {pass : Pass} {step : RackStep} (laws : RackLaw law)
    (iteration : IterationCase platform answers position.1 position.2 pass step)
    (keeps : answers.Keeps (pass.cc.spec.rackNameAt position) law)
    (satisfies : Throughout (AllRacks law) pass) : Throughout (AllRacks law) step.pass := by
  cases iteration with
  | nameless empty => exact satisfies
  | added absent => exact satisfies.setRackStatus (satisfies.working.insert (laws.initial _))
  | deleting deletes => exact satisfies.deletePVCs
  | handled rackStatus written step found alive handled path =>
    exact handled.iteration.satisfies (laws.handling keeps) satisfies

theorem reconcileRacks_allRacks (laws : RackLaw law) (platform : Platform)
    (answers : Nat × Nat → RackAnswers) (positions : List (Nat × Nat)) (start : Pass)
    (keeps : ∀ position ∈ positions,
      (answers position).Keeps (start.cc.spec.rackNameAt position) law)
    (satisfies : Throughout (AllRacks law) start) (newStatus : Bool) :
    Throughout (AllRacks law)
      (reconcileRacks platform answers positions start newStatus).pass := by
  refine (@reconcileRacks_invariant
    (fun pass => Throughout (AllRacks law) pass ∧
      pass.cc.spec.settled = start.cc.spec.settled) platform answers positions ?_ start newStatus
    ⟨satisfies, rfl⟩).1
  rintro position member pass step ⟨satisfies, settled⟩ iteration
  obtain ⟨_, frame, _⟩ := iteration.frame
  refine ⟨iteration.allRacks laws ?_ satisfies, frame.spec.trans settled⟩
  rw [CassandraClusterSpec.rackNameAt_of_settled settled]
  exact keeps position member

/-! ## The pass -/

theorem Ready.allRacks {cc : CassandraCluster} {start ready : Pass} {answers : ReconcileAnswers}
    (laws : RackLaw law) (started : Started cc start) (isReady : Ready start answers ready)
    (holds : AllRacks law cc.status.cassandraRackStatus) : Throughout (AllRacks law) ready := by
  rw [← started.status] at holds
  refine ⟨holds.flagged laws.toRecordLaw isReady.flagged.fromFlagged, ?_,
    fun status succeeded member => ?_⟩
  · rw [isReady.object]
    exact holds
  · rw [isReady.effects] at member
    exact absurd member (started.unwritten status succeeded)

/-- A law that the rack loop keeps holds of the stored racks after the pass. -/
theorem World.pass_allRacks_of_loop (laws : RecordLaw law) (platform : Platform) (world : World)
    (answers : ReconcileAnswers)
    (holds : AllRacks law world.cluster.status.cassandraRackStatus)
    (loop : ∀ start ready last, Started world.cluster start → Ready start answers ready →
      (world.pass platform answers).effects = (ready.looped platform answers).effects ++ last →
      Throughout (AllRacks law) (ready.looped platform answers)) :
    AllRacks law (world.step platform (.pass answers)).cluster.status.cassandraRackStatus := by
  refine world.pass_racks platform answers holds (fun racks all => all.serialized laws) ?_
  intro status succeeded member
  cases reconcile_loopCase platform world.memory world.cluster answers with
  | quiet outer racks =>
    cases racks status succeeded member with
    | fresh unset initial => exact .ofInitial laws initial
    | checked start started flagged whole => exact holds.flagged laws flagged
  | loop start ready started isReady last outer effects racks =>
    have looped := loop start ready last started isReady effects
    rw [World.pass, effects] at member
    rcases List.mem_append.mp member with inLoop | after
    · exact looped.written status succeeded inLoop
    · rcases racks status succeeded after with same | seeded
      · rw [same]
        exact looped.working
      · rw [seeded]
        exact ensureSeedListIsUpdatedWhenRequired_keeps
          (fun racks name rack all found => all.seedListToDo laws found) _ looped.working

theorem World.pass_allRacks (laws : RackLaw law) (platform : Platform) (world : World)
    (answers : ReconcileAnswers)
    (keeps : ∀ position ∈ world.cluster.spec.rackPositions,
      (answers.racks position).Keeps (world.cluster.spec.rackNameAt position) law)
    (holds : AllRacks law world.cluster.status.cassandraRackStatus) :
    AllRacks law (world.step platform (.pass answers)).cluster.status.cassandraRackStatus := by
  refine world.pass_allRacks_of_loop laws.toRecordLaw platform answers holds
    fun start ready _ started isReady _ => ?_
  have spec : ready.cc.spec = world.cluster.spec.checkDefaults := isReady.spec.trans started.spec
  refine reconcileRacks_allRacks laws platform answers.racks _ ready ?_
    (isReady.allRacks laws started holds) false
  rw [spec, world.cluster.spec.checkDefaults_topology.1,
    world.cluster.spec.checkDefaults_topology.2]
  exact keeps

end Laws

end Casskop
