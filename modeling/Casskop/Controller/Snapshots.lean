import Casskop.Controller.Initialized
import Casskop.Controller.Upsize

/-!
# Snapshots of StatefulSets

A storage upsize keeps a snapshot of the StatefulSet in the status of the rack.  In
one pass the snapshot of a rack stays as it is, or it is saved or cleared as the last
thing the rack loop does; a pass that deletes or rebuilds the StatefulSet leaves it
alone.
-/

namespace Casskop

/-! ## One rack -/

variable {answers : RackAnswers} {rack : CassandraRackStatus}

section Changes

variable {spec : CassandraClusterSpec} {dcRackName : String} {rack' : CassandraRackStatus}

theorem seedListToDo_snapshot (rack : CassandraRackStatus) :
    (seedListToDo rack).statefulSetSnapshotBeforeStorageResize =
      rack.statefulSetSnapshotBeforeStorageResize := by
  unfold seedListToDo
  split <;> rfl

theorem OrdinaryChange.snapshot_eq (change : OrdinaryChange spec dcRackName answers rack rack') :
    rack'.statefulSetSnapshotBeforeStorageResize = rack.statefulSetSnapshotBeforeStorageResize := by
  cases change with
  | observed change =>
    cases change with
    | startResources =>
      unfold startUpdateResources
      split <;> rfl
    | phase | initialized | abortInitializing | ended | detected | scaleDown | upsize
    | revisionChanged => rfl
  | decommission change => cases change <;> rfl
  | operation change => cases change; rfl
  | update change =>
    cases change with
    | started => rfl
    | written =>
      unfold actionOnWrite
      dsimp only
      repeat' split
      all_goals rfl

end Changes

/-! ## All racks -/

/-- The snapshot of a rack, if the rack is there and has one. -/
def snapshotOf (racks : RackStatuses) (name : String) : Option StatefulSet :=
  (racks.lookup name).bind fun rack => rack.statefulSetSnapshotBeforeStorageResize

theorem snapshotOf_insert (racks : RackStatuses) (name : String) (rack : CassandraRackStatus) :
    snapshotOf (racks.insert name rack) name = rack.statefulSetSnapshotBeforeStorageResize := by
  simp [snapshotOf]

variable {name : String}

theorem snapshotOf_insert_ne (racks : RackStatuses) {other : String} (different : other ≠ name)
    (rack : CassandraRackStatus) :
    snapshotOf (racks.insert name rack) other = snapshotOf racks other := by
  unfold snapshotOf
  rw [Finmap.lookup_insert_of_ne racks different]

variable {racks : RackStatuses}

theorem snapshotOf_insert_same
    (same : rack.statefulSetSnapshotBeforeStorageResize = snapshotOf racks name) (other : String) :
    snapshotOf (racks.insert name rack) other = snapshotOf racks other := by
  by_cases equal : other = name
  · rw [equal, snapshotOf_insert, same]
  · exact snapshotOf_insert_ne racks equal rack

theorem snapshotOf_found (found : racks.lookup name = some rack) :
    snapshotOf racks name = rack.statefulSetSnapshotBeforeStorageResize := by
  simp [snapshotOf, found]

theorem snapshotOf_serialized (racks : RackStatuses) (name : String) :
    snapshotOf (racks.mapValues CassandraRackStatus.serialized) name = snapshotOf racks name := by
  unfold snapshotOf
  rw [GoMap.lookup_mapValues]
  cases racks.lookup name <;> rfl

theorem AllInitial.snapshotOf (initial : AllInitial racks) (name : String) :
    snapshotOf racks name = none := by
  unfold Casskop.snapshotOf
  cases found : racks.lookup name with
  | none => rfl
  | some rack => rw [initial name rack found]; rfl

theorem FlaggedAt.snapshotOf {flags : Prop} {before after : RackStatuses}
    (flagged : FlaggedAt flags before after name) :
    snapshotOf after name = snapshotOf before name := by
  unfold Casskop.snapshotOf
  rcases flagged with kept | ⟨rack, now, _, present, changed⟩
  · rw [kept]
  · rw [present, changed]
    rfl

theorem FromFlagged.snapshotOf {flags : Prop} {before after : RackStatuses}
    (flagged : FromFlagged flags before after) (name : String) :
    snapshotOf after name = snapshotOf before name ∨ snapshotOf after name = none := by
  cases found : after.lookup name with
  | none => exact Or.inr (by simp [Casskop.snapshotOf, found])
  | some rack =>
    rw [snapshotOf_found found]
    rcases flagged name rack found with kept | ⟨old, now, _, present, rfl⟩
    · exact Or.inl (snapshotOf_found kept).symm
    · exact Or.inl (snapshotOf_found present).symm

/-- The snapshot of a given rack is `before`. -/
def HasSnapshot (name : String) (before : Option StatefulSet) (racks : RackStatuses) : Prop :=
  snapshotOf racks name = before

variable {before : Option StatefulSet}

section Stable

theorem HasSnapshot.init (holds : HasSnapshot name before racks) {dcRackName : String}
    (absent : racks.lookup dcRackName = none) :
    HasSnapshot name before (racks.insert dcRackName initialRackStatus) := by
  refine (snapshotOf_insert_same ?_ name).trans holds
  simp [snapshotOf, absent, initialRackStatus]

theorem hasSnapshot_stable (spec : CassandraClusterSpec) (dcRackName : String)
    (answers : RackAnswers) :
    Stable (.ordinary spec dcRackName answers) dcRackName (HasSnapshot name before)
      (HasSnapshot name before) := by
  refine ⟨fun racks holds absent => holds.init absent,
    fun racks rack rack' holds found change => ?_, fun racks holds => holds,
    fun racks other rack op holds found => ?_⟩
  · have same := OrdinaryChange.snapshot_eq change
    exact (snapshotOf_insert_same (same.trans (snapshotOf_found found).symm) name).trans holds
  · have same : (setOperation rack (updatePodLastOperation op)
        ).statefulSetSnapshotBeforeStorageResize = snapshotOf racks other :=
      (snapshotOf_found found).symm
    exact (snapshotOf_insert_same same name).trans holds

theorem hasSnapshot_seed (racks : RackStatuses) (other : String) (rack : CassandraRackStatus)
    (holds : HasSnapshot name before racks) (found : racks.lookup other = some rack) :
    HasSnapshot name before (racks.insert other (seedListToDo rack)) := by
  refine (snapshotOf_insert_same ?_ name).trans holds
  rw [seedListToDo_snapshot, snapshotOf_found found]

end Stable

/-! ## The loop -/

/-- Effects of an upsize on the StatefulSet of a rack. -/
def Effect.upsizes (name : String) : Effect → Bool
  | .orphanStatefulSet rack _ | .recreateStatefulSet rack _ _ => rack == name
  | _ => false

/-- Deleting and rebuilding the StatefulSet need the snapshot. -/
inductive FromSnapshot (name : String) (snapshot : Option StatefulSet) : Effect → Prop where
  | other (effect : Effect) (unrelated : effect.upsizes name = false) :
      FromSnapshot name snapshot effect
  | orphan (saved : StatefulSet) (has : snapshot = some saved) (succeeded : Bool) :
      FromSnapshot name snapshot (.orphanStatefulSet name succeeded)
  | recreate (saved sts : StatefulSet) (has : snapshot = some saved) (quantity : Quantity)
      (built : setNewDataCapacity saved quantity = .updated sts) (succeeded : Bool) :
      FromSnapshot name snapshot (.recreateStatefulSet name sts succeeded)

/-- The StatefulSet of the rack was read in the loop. -/
def ReadsAt (spec : CassandraClusterSpec) (answers : ReconcileAnswers) (name : String)
    (sts : StatefulSet) : Prop :=
  ∃ position ∈ spec.rackPositions, spec.rackNameAt position = name ∧
    (answers.racks position).statefulSet = .ok sts

/-- How a pass that has read a StatefulSet may change the snapshot. -/
inductive SnapshotChange (reads : StatefulSet → Prop) :
    Option StatefulSet → Option StatefulSet → Prop where
  | saved (sts : StatefulSet) (read : reads sts) :
      SnapshotChange reads none (some (prepareStatefulSetSnapshot sts))
  | cleared (saved sts : StatefulSet) (read : reads sts) :
      SnapshotChange reads (some saved) none

theorem SnapshotChange.reads {reads : StatefulSet → Prop} {after : Option StatefulSet}
    (change : SnapshotChange reads before after) : ∃ sts, reads sts := by
  cases change with
  | saved sts read => exact ⟨sts, read⟩
  | cleared saved sts read => exact ⟨sts, read⟩

theorem SnapshotChange.saves {reads : StatefulSet → Prop} {saved : StatefulSet}
    (change : SnapshotChange reads before (some saved)) :
    before = none ∧ ∃ sts, reads sts ∧ saved = prepareStatefulSetSnapshot sts := by
  cases change with
  | saved sts read => exact ⟨rfl, sts, read, rfl⟩

variable {effect : Effect} {names : CompleteRackName} {pass : Pass}

section Loop

variable (reads : StatefulSet → Prop) (name : String) (before : Option StatefulSet)

/-- The snapshot of a rack between two iterations. -/
structure Unsaved (spec : CassandraClusterSpec) (pass : Pass) : Prop where
  satisfies : Satisfies (HasSnapshot name before) (HasSnapshot name before) pass
  settled : pass.cc.spec.settled = spec.settled
  writes : pass.writes = []

/-- The snapshot of a rack when the loop has ended. -/
inductive SnapshotEnd (pass : Pass) : Prop where
  | kept (satisfies : Satisfies (HasSnapshot name before) (HasSnapshot name before) pass)
      (upsizes : ∀ effect ∈ pass.writes, FromSnapshot name before effect)
  | changed (after : Option StatefulSet) (change : SnapshotChange reads before after)
      (satisfies : Satisfies (HasSnapshot name after) (HasSnapshot name before) pass)
      (quiet : pass.writes = [])

variable {reads name before} {platform : Platform} {spec : CassandraClusterSpec}

theorem Effect.writtenRack_of_upsizes (upsizes : effect.upsizes name = true) :
    effect.writtenRack = some name := by
  cases effect <;> first
    | cases upsizes
    | exact congrArg some (by simpa [Effect.upsizes] using upsizes)

theorem Effect.upsizes_of_isGated (gated : effect.isGated = true) :
    effect.upsizes name = false := by
  cases effect <;> first | rfl | cases gated

/-- The steps of an upsize need the snapshot, or change it and do nothing else. -/
theorem UpsizeCase.snapshot {living : Option StatefulSet} {made : UpsizeStep}
    (steps : UpsizeCase platform answers.now spec names living rack answers.upsize made)
    (seen : Living answers living) (read : ∀ sts, answers.statefulSet = .ok sts → reads sts) :
    (made.rack.statefulSetSnapshotBeforeStorageResize =
          rack.statefulSetSnapshotBeforeStorageResize ∧
        ∀ effect ∈ made.effects, FromSnapshot names.dcRackName
          rack.statefulSetSnapshotBeforeStorageResize effect) ∨
      (SnapshotChange reads rack.statefulSetSnapshotBeforeStorageResize
          made.rack.statefulSetSnapshotBeforeStorageResize ∧ made.effects = []) := by
  have living_read : ∀ sts, living = some sts → reads sts := by
    intro sts alive
    cases seen with
    | missing => cases alive
    | alive sts' found =>
      cases alive
      exact read sts found
  cases steps with
  | lost missing unsaved => exact Or.inl ⟨rfl, by simp⟩
  | saved sts alive unsaved =>
    rw [unsaved]
    exact Or.inr ⟨.saved sts (living_read sts alive), rfl⟩
  | orphaned sts snapshot alive kept outdated =>
    refine Or.inl ⟨rfl, fun effect member => ?_⟩
    rw [List.mem_singleton.mp member]
    exact .orphan snapshot kept _
  | unbuildable snapshot result missing kept failed ends => exact Or.inl ⟨rfl, by simp⟩
  | recreated snapshot sts missing kept built =>
    refine Or.inl ⟨rfl, fun effect member => ?_⟩
    rw [List.mem_singleton.mp member]
    exact .recreate snapshot sts kept _ built _
  | waiting sts snapshot effects result alive kept current resizes waits =>
    refine Or.inl ⟨rfl, fun effect member => ?_⟩
    obtain ⟨claim, quantity, rfl⟩ := resizes effect member
    exact .other _ rfl
  | finalized sts snapshot alive kept current finished =>
    rw [kept]
    exact Or.inr ⟨.cleared snapshot sts (living_read sts alive), rfl⟩

theorem UpsizeCase.elsewhere {living : Option StatefulSet} {made : UpsizeStep}
    (steps : UpsizeCase platform answers.now spec names living rack answers.upsize made)
    (seen : Living answers living) (pass : Pass) (different : name ≠ names.dcRackName) :
    ∀ effect ∈ made.effects, FromSnapshot name before effect := by
  intro effect member
  refine .other effect ?_
  cases upsizes : effect.upsizes name with
  | false => rfl
  | true =>
    have rackOf := Effect.writtenRack_of_upsizes upsizes
    rcases steps.effects seen pass with plain | ⟨only, single, reason⟩
    · have none := Effect.writtenRack_of_isLocal (Effect.isLocal_of_isPlain (plain effect member))
      rw [rackOf] at none
      cases none
    · rw [single, List.mem_singleton] at member
      rw [member, reason.writtenRack] at rackOf
      exact absurd (Option.some.inj rackOf).symm different

theorem Pass.upsized_writes (pass : Pass) (dcRackName : String) (living : Option StatefulSet)
    (made : UpsizeStep) :
    (pass.upsized dcRackName living made).writes =
      pass.writes ++ made.effects.filter fun effect => effect.writtenRack.isSome := by
  unfold Pass.upsized Pass.writes
  simp [Pass.emit, Pass.setRackStatus]

theorem Outcome.snapshotEnd {step : RackStep} {handled : CassandraClusterSpec}
    (outcome : Outcome (.ordinary handled names.dcRackName answers) platform answers names pass
      step) (unsaved : Unsaved name before spec pass)
    (read : names.dcRackName = name → ∀ sts, answers.statefulSet = .ok sts → reads sts) :
    SnapshotEnd reads name before step.pass := by
  cases outcome with
  | ordinary written step handled gated =>
    refine .kept (handled.iteration.satisfies (hasSnapshot_stable _ _ _) unsaved.satisfies) ?_
    rw [handled.iteration.frame.writes, unsaved.writes, List.nil_append]
    exact fun effect member => .other effect (Effect.upsizes_of_isGated (gated effect member))
  | upsize middle rack living made moves found upsizing seen steps =>
    have satisfies := moves.satisfies (hasSnapshot_stable _ _ _) unsaved.satisfies
    have quiet : middle.writes = [] := by
      rw [moves.frame.writes, unsaved.writes, List.nil_append]
    have has := satisfies.working
    by_cases same : names.dcRackName = name
    · unfold HasSnapshot at has
      rw [← same, snapshotOf_found found] at has
      rcases steps.snapshot seen (read same) with ⟨kept, upsizes⟩ | ⟨change, none⟩
      · refine .kept (satisfies.upsized steps seen ?_) fun effect member => ?_
        · unfold HasSnapshot
          rw [← same, snapshotOf_insert, kept]
          exact has
        · rw [Pass.upsized_writes, quiet, List.nil_append] at member
          rw [← same, ← has]
          exact upsizes effect (List.mem_filter.mp member).1
      · refine .changed _ (has ▸ change) (satisfies.upsized steps seen ?_) ?_
        · unfold HasSnapshot
          rw [← same, snapshotOf_insert]
        · rw [Pass.upsized_writes, quiet, none]
          rfl
    · refine .kept (satisfies.upsized steps seen ?_) fun effect member => ?_
      · exact (snapshotOf_insert_ne _ (Ne.symm same) _).trans has
      · rw [Pass.upsized_writes, quiet, List.nil_append] at member
        exact steps.elsewhere seen pass (Ne.symm same) effect (List.mem_filter.mp member).1

theorem Unsaved.ends (unsaved : Unsaved name before spec pass) :
    SnapshotEnd reads name before pass := by
  refine .kept unsaved.satisfies fun effect member => ?_
  rw [unsaved.writes] at member
  cases member

theorem Unsaved.deleting (unsaved : Unsaved name before spec pass) (answers : RackAnswers) :
    Unsaved name before spec (pass.emit (deletePVCs answers)) := by
  refine ⟨unsaved.satisfies.deletePVCs, unsaved.settled, ?_⟩
  have quiet : (deletePVCs answers).filter (fun effect => effect.writtenRack.isSome) = [] := by
    apply List.filter_eq_nil_iff.mpr
    intro effect member
    obtain ⟨_, rfl⟩ := deletePVCs_quiet _ _ member
    simp [Effect.writtenRack]
  have before := unsaved.writes
  unfold Pass.writes at before ⊢
  rw [Pass.effects_emit, List.filter_append, before, quiet]
  rfl

theorem reconcileRacks_snapshot (platform : Platform) (answers : ReconcileAnswers)
    (ready : Pass) (unsaved : Unsaved name before ready.cc.spec ready) :
    SnapshotEnd (ReadsAt ready.cc.spec answers name) name before
      (ready.looped platform answers) := by
  refine @reconcileRacks_ends (Unsaved name before ready.cc.spec) _ platform answers.racks _
    ?_ ?_ ?_ ready false unsaved
  · intro position _ pass step unsaved iteration next
    cases iteration with
    | nameless => cases next
    | added absent =>
      exact ⟨⟨unsaved.satisfies.working.init absent, unsaved.satisfies.object,
        unsaved.satisfies.written⟩, unsaved.settled, unsaved.writes⟩
    | deleting => exact unsaved.deleting _
    | handled rackStatus written step found alive handled path =>
      have quiet : written = [] := by
        by_contra nonempty
        exact handled.stops nonempty next
      have frame := handled.iteration.frame
      refine ⟨?_, frame.spec.trans unsaved.settled, ?_⟩
      · cases path.outcome rfl found with
        | ordinary written' step ordinary gated =>
          exact ordinary.iteration.satisfies (hasSnapshot_stable _ _ _) unsaved.satisfies
        | upsize middle rack living made => exact absurd next (Outcome.upsizeFlow_ne _)
      · rw [frame.writes, unsaved.writes, quiet]
        rfl
  · intro position member pass step unsaved iteration stops
    cases iteration with
    | nameless => exact unsaved.ends
    | added => exact absurd rfl stops
    | deleting => exact absurd rfl stops
    | handled rackStatus written step found alive handled path =>
      refine (path.outcome rfl found).snapshotEnd unsaved fun same sts read => ?_
      refine ⟨position, member, ?_, read⟩
      rw [← same]
      exact (congrFun (CassandraClusterSpec.rackNameAt_of_settled unsaved.settled)
        position).symm
  · exact fun pass unsaved => unsaved.ends

end Loop

/-! ## The pass -/

/-- The rack goes with its DC, or the whole status is made anew. -/
def CassandraCluster.Resets (cc : CassandraCluster) (name : String) : Prop :=
  cc.status.phase = .unset ∨ cc.defaulted.Drops name

/-- What a pass does to the snapshot of one rack. -/
inductive PassSnapshot (cc : CassandraCluster) (answers : ReconcileAnswers) (name : String)
    (before : Option StatefulSet) (pass : Pass) : Prop where
  | kept
      (written : ∀ status succeeded, .updateClusterStatus status succeeded ∈ pass.effects →
        HasSnapshot name before status.cassandraRackStatus)
      (upsizes : ∀ effect ∈ pass.effects, FromSnapshot name before effect)
  | changed (after : Option StatefulSet)
      (change : SnapshotChange (ReadsAt cc.spec.checkDefaults answers name) before after)
      (written : ∀ status succeeded, .updateClusterStatus status succeeded ∈ pass.effects →
        HasSnapshot name before status.cassandraRackStatus ∨
          HasSnapshot name after status.cassandraRackStatus)
      (quiet : ∀ effect ∈ pass.effects, effect.upsizes name = false)
  | reset (resets : cc.Resets name)
      (written : ∀ status succeeded, .updateClusterStatus status succeeded ∈ pass.effects →
        HasSnapshot name before status.cassandraRackStatus ∨
          HasSnapshot name none status.cassandraRackStatus)
      (quiet : ∀ effect ∈ pass.effects, effect.upsizes name = false)

section Passes

variable (platform : Platform) {cc : CassandraCluster} {answers : ReconcileAnswers}

theorem Effect.upsizes_of_isOuter (outer : effect.isOuter = true) :
    effect.upsizes name = false := by
  cases effect <;> first | rfl | cases outer

theorem Effect.upsizes_of_writtenRack (unwritten : effect.writtenRack = none) :
    effect.upsizes name = false := by
  cases upsizes : effect.upsizes name with
  | false => rfl
  | true =>
    have written := Effect.writtenRack_of_upsizes upsizes
    rw [unwritten] at written
    cases written

theorem FromSnapshot.ofWrites {effects : List Effect}
    (writes : ∀ effect ∈ effects.filter (fun effect => effect.writtenRack.isSome),
      FromSnapshot name before effect) :
    ∀ effect ∈ effects, FromSnapshot name before effect := by
  intro effect member
  cases written : effect.writtenRack with
  | none => exact .other effect (Effect.upsizes_of_writtenRack written)
  | some rack => exact writes effect (List.mem_filter.mpr ⟨member, by simp [written]⟩)

theorem Unlooped.hasSnapshot (unlooped : Unlooped cc racks)
    (stored : HasSnapshot name before cc.status.cassandraRackStatus) :
    HasSnapshot name before racks ∨ cc.Resets name ∧ HasSnapshot name none racks := by
  cases unlooped with
  | fresh unset initial => exact Or.inr ⟨Or.inl unset, initial.snapshotOf name⟩
  | checked start started from' whole =>
    by_cases drops : start.cc.Drops name
    · rcases from'.snapshotOf name with kept | gone
      · exact Or.inl (kept.trans stored)
      · exact Or.inr ⟨Or.inr (started.drops drops), gone⟩
    · exact Or.inl ((whole name drops).snapshotOf.trans stored)

theorem Ready.unsaved {start ready : Pass} (started : Started cc start)
    (isReady : Ready start answers ready)
    (stored : HasSnapshot name before cc.status.cassandraRackStatus) :
    Unsaved name before ready.cc.spec ready := by
  have flagged := (isReady.flagged name).snapshotOf
  rw [started.status] at flagged
  refine ⟨⟨flagged.trans stored, ?_, fun status succeeded member => ?_⟩, rfl, ?_⟩
  · rw [isReady.object, started.status]
    exact stored
  · rw [isReady.effects] at member
    exact absurd member (started.unwritten status succeeded)
  · unfold Pass.writes
    rw [isReady.effects]
    apply List.filter_eq_nil_iff.mpr
    intro effect member
    simp [(started.outer effect member).2]

theorem reconcile_snapshot (memory : Memory)
    (stored : HasSnapshot name before cc.status.cassandraRackStatus) :
    PassSnapshot cc answers name before (reconcile platform memory cc answers) := by
  have loopCase := reconcile_loopCase platform memory cc answers
  generalize reconcile platform memory cc answers = pass at loopCase
  cases loopCase with
  | quiet outer racks =>
    have quiet : ∀ effect ∈ pass.effects, effect.upsizes name = false :=
      fun effect member => Effect.upsizes_of_isOuter (outer effect member)
    by_cases resets : cc.Resets name
    · refine .reset resets (fun status succeeded member => ?_) quiet
      exact ((racks status succeeded member).hasSnapshot stored).imp_right And.right
    · refine .kept (fun status succeeded member => ?_) fun effect member =>
        .other effect (quiet effect member)
      rcases (racks status succeeded member).hasSnapshot stored with kept | ⟨reset, _⟩
      · exact kept
      · exact absurd reset resets
  | loop start ready started isReady last outer effects racks =>
    have ends := reconcileRacks_snapshot platform answers ready (isReady.unsaved started stored)
    rw [isReady.spec, started.spec] at ends
    -- Behind the loop the seed list may flag racks, which leaves their snapshots alone.
    have later : ∀ after, HasSnapshot name after
          (ready.looped platform answers).status.cassandraRackStatus →
        ∀ status succeeded, .updateClusterStatus status succeeded ∈ last →
          HasSnapshot name after status.cassandraRackStatus := by
      intro after holds status succeeded member
      rcases racks status succeeded member with same | seeded
      · rw [same]
        exact holds
      · rw [seeded]
        exact ensureSeedListIsUpdatedWhenRequired_keeps hasSnapshot_seed _ holds
    cases ends with
    | kept satisfies upsizes =>
      refine .kept (fun status succeeded member => ?_) fun effect member => ?_
      · rw [effects] at member
        rcases List.mem_append.mp member with old | new
        · exact satisfies.written status succeeded old
        · exact later before satisfies.working status succeeded new
      · rw [effects] at member
        rcases List.mem_append.mp member with old | new
        · exact FromSnapshot.ofWrites upsizes effect old
        · exact .other effect (Effect.upsizes_of_isOuter (outer effect new).1)
    | changed after change satisfies quiet =>
      refine .changed after change (fun status succeeded member => ?_)
        fun effect member => ?_
      · rw [effects] at member
        rcases List.mem_append.mp member with old | new
        · exact Or.inl (satisfies.written status succeeded old)
        · exact Or.inr (later after satisfies.working status succeeded new)
      · rw [effects] at member
        rcases List.mem_append.mp member with old | new
        · cases written : effect.writtenRack with
          | none => exact Effect.upsizes_of_writtenRack written
          | some rack =>
            have listed : effect ∈ (ready.looped platform answers).writes :=
              List.mem_filter.mpr ⟨old, by simp [written]⟩
            rw [quiet] at listed
            cases listed
        · exact Effect.upsizes_of_isOuter (outer effect new).1

end Passes

/-! ## Runs -/

variable {world : World}

namespace World

/-- The snapshot of a rack as it is stored. -/
def snapshot (world : World) (name : String) : Option StatefulSet :=
  snapshotOf world.cluster.status.cassandraRackStatus name

section Runs

variable (platform : Platform)

theorem applyEffects_snapshot (effects : List Effect) :
    ∀ world : World, world.snapshot name = before →
      (∀ status succeeded, .updateClusterStatus status succeeded ∈ effects →
        HasSnapshot name before status.cassandraRackStatus) →
      Runs.Meets applyEffect (fun world _ => world.snapshot name = before) world effects := by
  induction effects with
  | nil => exact fun _ _ _ => trivial
  | cons effect effects induction =>
    intro world stored written
    refine ⟨stored, induction _ ?_ fun status succeeded member =>
      written status succeeded (List.mem_cons_of_mem _ member)⟩
    change snapshotOf (world.applyEffects [effect]).cluster.status.cassandraRackStatus name = _
    rcases applyEffects_status [effect] world with same | ⟨status, member, last⟩
    · rw [same]
      exact stored
    · rw [last]
      refine (snapshotOf_serialized _ name).trans (written status true ?_)
      exact List.mem_cons.mpr (Or.inl (List.mem_singleton.mp member))

theorem step_snapshot {good : Option StatefulSet → Prop} (answers : ReconcileAnswers)
    (holds : good (world.snapshot name))
    (written : ∀ status succeeded,
      .updateClusterStatus status succeeded ∈ (world.pass platform answers).effects →
      good (snapshotOf status.cassandraRackStatus name)) :
    good ((world.step platform (.pass answers)).snapshot name) :=
  @pass_racks (fun racks => good (snapshotOf racks name)) platform world answers
    holds (fun racks => by rw [snapshotOf_serialized]; exact id) written

/-- A pass deletes or rebuilds the StatefulSet of a rack only with the snapshot, and
keeps it then. -/
theorem pass_upsizes (answers : ReconcileAnswers)
    (member : effect ∈ (world.pass platform answers).effects)
    (upsizes : effect.upsizes name = true) :
    world.cluster.status.phase ≠ .unset ∧
      FromSnapshot name (world.snapshot name) effect ∧
      Runs.Meets applyEffect (fun state _ => state.snapshot name = world.snapshot name) world
        (world.pass platform answers).effects ∧
      (world.step platform (.pass answers)).snapshot name = world.snapshot name := by
  have phase : world.cluster.status.phase ≠ .unset := by
    cases reconcile_loopCase platform world.memory world.cluster answers with
    | quiet outer =>
      have unrelated : effect.upsizes name = false :=
        Effect.upsizes_of_isOuter (outer effect member)
      rw [upsizes] at unrelated
      cases unrelated
    | loop start ready started => exact started.phase
  refine ⟨phase, ?_⟩
  have loud : ¬ ∀ effect ∈ (world.pass platform answers).effects,
      effect.upsizes name = false := by
    intro quiet
    have unrelated := quiet effect member
    rw [upsizes] at unrelated
    cases unrelated
  cases @reconcile_snapshot name _ platform world.cluster answers world.memory rfl with
  | changed after change written quiet => exact absurd quiet loud
  | reset resets written quiet => exact absurd quiet loud
  | kept written from' =>
    exact ⟨from' effect member, applyEffects_snapshot _ world rfl written,
      @step_snapshot name world platform (fun after => after = world.snapshot name) answers rfl
        written⟩

end Runs

/-- Whenever the operator deletes the StatefulSet of the rack, a snapshot is stored. -/
def OrphansSaved (name : String) (world : World) (effect : Effect) : Prop :=
  ∀ succeeded, effect = .orphanStatefulSet name succeeded → world.snapshot name ≠ none

/-- The rack stays in the topology and has no StatefulSet, and a pass finds none. -/
def Awaits (name : String) (world : World) : Event → Prop
  | .pass answers =>
    world.statefulSets name = none ∧
      (∀ sts, ReadsAt world.cluster.spec.checkDefaults answers name sts →
        world.statefulSets name = some sts) ∧
      ¬ world.cluster.defaulted.Drops name
  | _ => world.statefulSets name = none

theorem step_awaits (platform : Platform) {event : Event} (awaits : world.Awaits name event)
    (phase : world.cluster.status.phase ≠ .unset) :
    (world.step platform event).snapshot name = world.snapshot name := by
  cases event with
  | edit | restart => rfl
  | pass answers =>
    obtain ⟨gone, faithful, stays⟩ := awaits
    have unread : ∀ sts, ¬ ReadsAt world.cluster.spec.checkDefaults answers name sts := by
      intro sts read
      have found := faithful sts read
      rw [gone] at found
      cases found
    cases @reconcile_snapshot name _ platform world.cluster answers world.memory rfl with
    | kept written upsizes =>
      exact @step_snapshot name world platform (fun after => after = world.snapshot name)
        answers rfl written
    | changed after change written quiet =>
      obtain ⟨sts, read⟩ := change.reads
      exact absurd read (unread sts)
    | reset resets written quiet =>
      rcases resets with unset | drops
      · exact absurd unset phase
      · exact absurd drops stays

/-- An initialized cluster with the snapshot of a rack. -/
structure Holds (world : World) (name : String) (saved : StatefulSet) : Prop where
  stored : world.snapshot name = some saved
  phased : world.Phased
  phase : world.cluster.status.phase ≠ .unset

theorem Holds.step (platform : Platform) {saved : StatefulSet} {event : Event}
    (holds : world.Holds name saved) (awaits : world.Awaits name event) :
    (world.step platform event).Holds name saved :=
  ⟨(step_awaits platform awaits holds.phase).trans holds.stored,
    step_phased platform event holds.phased,
    step_initialized platform event holds.phased holds.phase⟩

/-- When the StatefulSet of a rack is deleted for a storage upsize, whatever happened
before, a snapshot of it is stored.  The snapshot stays there until the rack has a
StatefulSet again. -/
theorem upsize_snapshot_safe (platform : Platform) (start : World) (phased : start.Phased)
    (first : List Event) (answers : ReconcileAnswers) (later : List Event) (name : String) :
    let world := Runs.run (World.step platform) start first
    let after := world.step platform (.pass answers)
    Runs.Meets applyEffect (OrphansSaved name) world (world.pass platform answers).effects ∧
      ∀ succeeded,
        .orphanStatefulSet name succeeded ∈ (world.pass platform answers).effects →
        Runs.Meets (World.step platform) (Awaits name) after later →
        ∃ saved, world.snapshot name = some saved ∧
          (Runs.run (World.step platform) after later).snapshot name = some saved := by
  intro world after
  have phased : world.Phased :=
    Runs.run_keeps phased (fun state event holds => step_phased platform event holds) first
  have deletes : ∀ succeeded,
      .orphanStatefulSet name succeeded ∈ (world.pass platform answers).effects →
      world.cluster.status.phase ≠ .unset ∧ (∃ saved, world.snapshot name = some saved) ∧
        Runs.Meets applyEffect (fun state _ => state.snapshot name = world.snapshot name) world
          (world.pass platform answers).effects ∧
        after.snapshot name = world.snapshot name := by
    intro succeeded member
    obtain ⟨phase, from', meets, kept⟩ := pass_upsizes platform answers member
      (beq_self_eq_true name)
    refine ⟨phase, ?_, meets, kept⟩
    cases from' with
    | other effect unrelated => simp [Effect.upsizes] at unrelated
    | orphan saved has => exact ⟨saved, has⟩
  constructor
  · by_cases orphaned : ∃ succeeded,
        .orphanStatefulSet name succeeded ∈ (world.pass platform answers).effects
    · obtain ⟨succeeded, member⟩ := orphaned
      obtain ⟨_, ⟨saved, has⟩, meets, _⟩ := deletes succeeded member
      refine meets.mono fun state effect same _ _ => ?_
      rw [same, has]
      simp
    · refine Runs.Meets.of_forall fun effect member state succeeded same => ?_
      exact absurd ⟨succeeded, same ▸ member⟩ orphaned
  · intro succeeded member awaits
    obtain ⟨phase, ⟨saved, has⟩, _, kept⟩ := deletes succeeded member
    have begins : after.Holds name saved :=
      ⟨kept.trans has, step_phased platform _ phased, step_initialized platform _ phased phase⟩
    have final : (Runs.run (World.step platform) after later).Holds name saved :=
      @Runs.Meets.keeps _ _ _ _ _ (fun state => state.Holds name saved) later awaits begins
        fun _ _ holds waiting => holds.step platform waiting
    exact ⟨saved, has, final.stored⟩

/-- The capacity goes from 5Gi to 20Gi and the StatefulSet is saved. -/
def savedCapacity : List Event :=
  [.edit demoMeta (sizedSpec "20Gi" ""),
    .pass (sizedPass 100 (.ok (sizedStatefulSet [dataTemplate 5])))]

def deletingPass : ReconcileAnswers := sizedPass 1000 (.ok (sizedStatefulSet [dataTemplate 5]))

def rebuildingPass : ReconcileAnswers := sizedPass 2000 (.error .notFound)

theorem sizedWorld_phased (spec : CassandraClusterSpec) (templates : List PersistentVolumeClaim) :
    (sizedWorld spec templates).Phased := by
  have none : Casskop.Phased ∅ := fun name rack found => by simp at found
  exact none.insert (by decide)

def savedWorld : World :=
  Runs.run (World.step sizedPlatform) (sizedWorld (sizedSpec "5Gi" "") [dataTemplate 5])
    savedCapacity

/-- A pass deletes the StatefulSet, and the next one cannot find it. -/
theorem upsize_snapshot_safe_savedCapacity :
    .orphanStatefulSet "dc1-rack1" true ∈
        (savedWorld.pass sizedPlatform deletingPass).effects ∧
      ∃ saved, savedWorld.snapshot "dc1-rack1" = some saved ∧
        (Runs.run (World.step sizedPlatform)
          (savedWorld.step sizedPlatform (.pass deletingPass))
          [.pass rebuildingPass]).snapshot "dc1-rack1" = some saved := by
  have deletes : .orphanStatefulSet "dc1-rack1" true ∈
      (savedWorld.pass sizedPlatform deletingPass).effects := by
    have writes : (savedWorld.pass sizedPlatform deletingPass).writes =
        [.orphanStatefulSet "dc1-rack1" true] := by decide
    have member := List.mem_singleton_self (Effect.orphanStatefulSet "dc1-rack1" true)
    rw [← writes] at member
    exact (List.mem_filter.mp member).1
  have gone : (savedWorld.step sizedPlatform (.pass deletingPass)).statefulSets "dc1-rack1" =
      none := by decide
  have unread : ∀ (world : World) (spec : CassandraClusterSpec) (sts : StatefulSet),
      ReadsAt spec rebuildingPass "dc1-rack1" sts →
      world.statefulSets "dc1-rack1" = some sts := by
    rintro world spec sts ⟨position, _, _, read⟩
    cases read
  have stays : ¬ (savedWorld.step sizedPlatform (.pass deletingPass)).cluster.defaulted.Drops
      "dc1-rack1" := by
    rintro ⟨_, drops⟩
    exact drops (by decide)
  refine ⟨deletes, ?_⟩
  exact (upsize_snapshot_safe sizedPlatform _ (sizedWorld_phased _ _) savedCapacity deletingPass
    [.pass rebuildingPass] "dc1-rack1").2 true deletes ⟨⟨gone, unread _ _, stays⟩, trivial⟩

end World

end Casskop
