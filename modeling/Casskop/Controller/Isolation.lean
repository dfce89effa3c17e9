import Casskop.Controller.Snapshots

/-!
# A storage upsize and the other actions

A rack keeps a snapshot only while its last action is a storage upsize that goes on,
as long as nothing replaces the action: no new resources, no unlocked operation, and
no seed list that is taken over while a rack is new.
-/

namespace Casskop

/-! ## One rack -/

/-- A rack with a snapshot is being upsized. -/
structure Isolated (rack : CassandraRackStatus) : Prop where
  upsizing : rack.statefulSetSnapshotBeforeStorageResize ≠ none →
    rack.cassandraLastAction.name = .storageUpsize ∧
      rack.cassandraLastAction.status = .ongoing ∧ rack.phase ≠ .initializing
  stages : rack.cassandraLastAction.name = .storageUpsize →
    rack.cassandraLastAction.status = .ongoing ∨ rack.cassandraLastAction.status = .done

variable {spec : CassandraClusterSpec} {answers : RackAnswers} {rack : CassandraRackStatus}

namespace Isolated

variable {dcRackName : String} {rack' : CassandraRackStatus}

theorem ofUnsaved (unsaved : rack.statefulSetSnapshotBeforeStorageResize = none)
    (stages : rack.cassandraLastAction.name = .storageUpsize →
      rack.cassandraLastAction.status = .ongoing ∨ rack.cassandraLastAction.status = .done) :
    Isolated rack :=
  ⟨fun saved => absurd unsaved saved, stages⟩

theorem unsaved (isolated : Isolated rack)
    (other : rack.cassandraLastAction.name ≠ .storageUpsize) :
    rack.statefulSetSnapshotBeforeStorageResize = none := by
  by_contra saved
  exact other (isolated.upsizing saved).1

theorem initial : Isolated initialRackStatus :=
  ofUnsaved rfl (by simp [initialRackStatus])

section

variable (isolated : Isolated rack)

include isolated

/-- The rack may have another phase, unless it is the one of new racks. -/
theorem withPhase {phase : Phase} (started : phase ≠ .initializing) :
    Isolated { rack with phase := phase } :=
  ⟨fun saved => ⟨(isolated.upsizing saved).1, (isolated.upsizing saved).2.1, started⟩,
    isolated.stages⟩

theorem withOperation (operation : PodLastOperation) :
    Isolated { rack with podLastOperation := operation } :=
  ⟨isolated.upsizing, isolated.stages⟩

theorem unsaved_of_mayStart
    (locked : rack.statefulSetSnapshotBeforeStorageResize ≠ none →
      spec.unlockNextOperation = false)
    (free : MayStart spec rack) : rack.statefulSetSnapshotBeforeStorageResize = none := by
  by_contra saved
  rcases free with unlocked | idle
  · rw [locked saved] at unlocked
    cases unlocked
  · exact idle (isolated.upsizing saved).2.1

theorem observed
    (locked : rack.statefulSetSnapshotBeforeStorageResize ≠ none →
      spec.unlockNextOperation = false)
    (change : ObservedChange spec dcRackName answers rack rack') : Isolated rack' := by
  have new : rack.phase = .initializing →
      rack.statefulSetSnapshotBeforeStorageResize = none := by
    intro initializing
    by_contra saved
    exact (isolated.upsizing saved).2.2 initializing
  cases change with
  | phase phase started =>
    refine isolated.withPhase ?_
    rcases started with pending | running
    · simp [pending]
    · simp [running]
  | initialized initializing => exact ofUnsaved (new initializing) fun _ => Or.inr rfl
  | abortInitializing sts read initializing empty =>
    exact ofUnsaved (new initializing) (by simp [setDecommissionStatus])
  | ended running other => exact ofUnsaved (isolated.unsaved other) fun _ => Or.inr rfl
  | detected free known =>
    refine ofUnsaved (isolated.unsaved_of_mayStart locked free) ?_
    simp only [detectedActions, List.mem_cons, List.not_mem_nil, or_false] at known
    rcases known with rfl | rfl | rfl | rfl | rfl
    all_goals simp [setAction]
  | scaleDown sts free =>
    exact ofUnsaved (isolated.unsaved_of_mayStart locked free) (by simp [setAction])
  | upsize free =>
    exact ofUnsaved (isolated.unsaved_of_mayStart locked free) fun _ => Or.inl rfl
  | revisionChanged free =>
    exact ofUnsaved (isolated.unsaved_of_mayStart locked free) (by simp)
  | startResources =>
    unfold startUpdateResources
    split
    · rename_i asked
      exact ofUnsaved (isolated.unsaved (by simp [asked.2])) (by simp [asked.2])
    · exact isolated

theorem decommission (change : DecommissionChange answers rack rack') : Isolated rack' := by
  have named : weAreScalingDown rack = true → rack.cassandraLastAction.name = .scaleDown := by
    intro scaling
    simp only [weAreScalingDown, Bool.and_eq_true, beq_iff_eq] at scaling
    exact scaling.1
  cases change with
  | bypass pods lastPod scaling =>
    exact ofUnsaved (isolated.unsaved (by simp [named scaling]))
      (by simp [bypassDecommission, setActionStatus, setOperation, named scaling])
  | more scaling done =>
    exact ofUnsaved (isolated.unsaved (by simp [named scaling]))
      (by simp [setActionStatus, named scaling])
  | start | retry | left | finish => exact isolated.withOperation _

theorem update (change : UpdateChange answers rack rack') : Isolated rack' := by
  cases change with
  | started asked =>
    have other : rack.cassandraLastAction.name ≠ .storageUpsize := by
      rcases asked with seeds | restarting
      · simp only [updatesSeedList, Bool.and_eq_true, beq_iff_eq] at seeds
        simp [seeds.1]
      · simp only [restarts, Bool.and_eq_true, beq_iff_eq] at restarting
        simp [restarting.1]
    exact ofUnsaved (isolated.unsaved other) fun _ => Or.inl rfl
  | written noCheckStsAreEqual =>
    unfold actionOnWrite
    by_cases toDo : rack.cassandraLastAction.status = .toDo
    · simp only [toDo, if_true, reduceCtorEq, and_false, if_false]
      exact ⟨fun saved => ⟨(isolated.upsizing saved).1, rfl, (isolated.upsizing saved).2.2⟩,
        fun _ => Or.inl rfl⟩
    · simp only [toDo, if_false]
      split
      · rename_i done
        refine ofUnsaved ?_ (by simp)
        by_contra saved
        have ongoing := (isolated.upsizing saved).2.1
        rw [done.2] at ongoing
        cases ongoing
      · exact isolated

theorem ordinary
    (locked : rack.statefulSetSnapshotBeforeStorageResize ≠ none →
      spec.unlockNextOperation = false)
    (change : OrdinaryChange spec dcRackName answers rack rack') : Isolated rack' := by
  cases change with
  | observed change => exact isolated.observed locked change
  | decommission change => exact isolated.decommission change
  | operation change =>
    cases change
    exact isolated.withOperation _
  | update change => exact isolated.update change

theorem upsize {platform : Platform} {names : CompleteRackName} {living : Option StatefulSet}
    {made : UpsizeStep}
    (upsizing : isStorageUpsizeStarted rack = true)
    (steps : UpsizeCase platform answers.now spec names living { rack with phase := .pending }
      answers.upsize made) : Isolated made.rack := by
  have pending : Isolated { rack with phase := .pending } := isolated.withPhase (by simp)
  cases steps with
  | saved sts alive unsaved =>
    simp only [isStorageUpsizeStarted, Bool.and_eq_true, beq_iff_eq, bne_iff_ne] at upsizing
    have ongoing := (isolated.stages upsizing.1).resolve_right upsizing.2
    exact ⟨fun _ => ⟨upsizing.1, ongoing, by simp⟩, isolated.stages⟩
  | finalized sts snapshot alive kept current finished =>
    exact ofUnsaved rfl fun _ => Or.inr rfl
  | lost | orphaned | unbuildable | recreated | waiting => exact pending

end

theorem flagged (unsaved : rack.statefulSetSnapshotBeforeStorageResize = none) (now : Nat) :
    Isolated (flagUpdateResources now rack) :=
  ofUnsaved unsaved (by simp [flagUpdateResources])

theorem seeded (isolated : Isolated rack)
    (unsaved : rack.statefulSetSnapshotBeforeStorageResize = none) :
    Isolated (seedListToDo rack) := by
  unfold seedListToDo
  split
  · exact isolated
  · exact ofUnsaved unsaved (by simp)

end Isolated

/-! ## All racks -/

def AllIsolated (racks : RackStatuses) : Prop :=
  ∀ name rack, racks.lookup name = some rack → Isolated rack

variable {racks : RackStatuses}

namespace AllIsolated

theorem insert (all : AllIsolated racks) (name : String) (isolated : Isolated rack) :
    AllIsolated (racks.insert name rack) := by
  intro other found lookup
  by_cases same : other = name
  · rw [same, Finmap.lookup_insert, Option.some.injEq] at lookup
    exact lookup ▸ isolated
  · rw [Finmap.lookup_insert_of_ne racks same] at lookup
    exact all other found lookup

theorem ofInitial (initial : AllInitial racks) : AllIsolated racks := by
  intro name rack found
  rw [initial name rack found]
  exact Isolated.initial

theorem serialized (all : AllIsolated racks) :
    AllIsolated (racks.mapValues CassandraRackStatus.serialized) := by
  intro name rack found
  rw [GoMap.lookup_mapValues, Option.map_eq_some_iff] at found
  obtain ⟨stored, present, rfl⟩ := found
  exact (all name stored present).withOperation _

theorem ofFlagged {flags : Prop} {after : RackStatuses} (all : AllIsolated racks)
    (unsaved : flags → ∀ name, snapshotOf racks name = none)
    (flagged : FromFlagged flags racks after) : AllIsolated after := by
  intro name rack found
  rcases flagged name rack found with kept | ⟨old, now, asked, present, rfl⟩
  · exact all name rack kept
  · refine Isolated.flagged ?_ now
    rw [← snapshotOf_found present]
    exact unsaved asked name

end AllIsolated

/-! ## The loop -/

/-- All racks are isolated, and while operations are unlocked there are no snapshots. -/
structure Locked (unlock : Bool) (racks : RackStatuses) : Prop where
  isolated : AllIsolated racks
  unsaved : unlock = true → ∀ name, snapshotOf racks name = none

theorem locked_stable {unlock : Bool} (lock : spec.unlockNextOperation = true → unlock = true)
    (dcRackName : String) (answers : RackAnswers) :
    Stable (.ordinary spec dcRackName answers) dcRackName (Locked unlock) AllIsolated := by
  have snapshots : ∀ name, Stable (.ordinary spec dcRackName answers) dcRackName
      (HasSnapshot name none) (HasSnapshot name none) :=
    fun name => hasSnapshot_stable spec dcRackName answers
  refine ⟨fun racks locked absent => ⟨locked.isolated.insert _ Isolated.initial,
    fun unlocked name => (snapshots name).init racks (locked.unsaved unlocked name) absent⟩,
    fun racks rack rack' locked found change => ⟨?_, fun unlocked name =>
      (snapshots name).change racks rack rack' (locked.unsaved unlocked name) found change⟩,
    fun racks locked => locked.isolated,
    fun racks name rack op all found => all.insert name ((all name rack found).withOperation _)⟩
  refine locked.isolated.insert dcRackName
    ((locked.isolated dcRackName rack found).ordinary (fun saved => ?_) change)
  cases unlocked : spec.unlockNextOperation with
  | false => rfl
  | true =>
    rw [← snapshotOf_found found] at saved
    exact absurd (locked.unsaved (lock unlocked) dcRackName) saved

variable {ready : Pass}

section Loop

variable {unlock : Bool} {platform : Platform}

structure LockedPass (unlock : Bool) (pass : Pass) : Prop where
  satisfies : Satisfies (Locked unlock) AllIsolated pass
  lock : pass.cc.spec.unlockNextOperation = true → unlock = true

theorem LockedPass.ends {pass : Pass} (locked : LockedPass unlock pass) :
    Throughout AllIsolated pass :=
  ⟨locked.satisfies.working.isolated, locked.satisfies.object, locked.satisfies.written⟩

theorem Outcome.isolated {names : CompleteRackName} {pass : Pass} {step : RackStep}
    (outcome : Outcome (.ordinary pass.cc.spec names.dcRackName answers) platform answers names pass
      step) (locked : LockedPass unlock pass) : Throughout AllIsolated step.pass := by
  have stable := locked_stable locked.lock names.dcRackName answers
  cases outcome with
  | ordinary written step handled gated =>
    have satisfies := handled.iteration.satisfies stable locked.satisfies
    exact ⟨satisfies.working.isolated, satisfies.object, satisfies.written⟩
  | upsize middle rack living made moves found upsizing seen steps =>
    have satisfies := moves.satisfies stable locked.satisfies
    have all := satisfies.working.isolated
    exact satisfies.upsized steps seen
      (all.insert _ ((all _ rack found).upsize upsizing steps))

theorem reconcileRacks_isolated (answers : ReconcileAnswers) (locked : LockedPass unlock ready) :
    Throughout AllIsolated (ready.looped platform answers) := by
  refine @reconcileRacks_ends (LockedPass unlock) (Throughout AllIsolated) platform
    answers.racks _ ?_ ?_ (fun pass locked => locked.ends) ready false locked
  · intro position _ pass step locked iteration next
    cases iteration with
    | nameless => cases next
    | added absent =>
      have satisfies := locked.satisfies
      exact ⟨⟨(locked_stable locked.lock _ (answers.racks position)).init _ satisfies.working
        absent, satisfies.object, satisfies.written⟩, locked.lock⟩
    | deleting => exact ⟨locked.satisfies.deletePVCs, locked.lock⟩
    | handled rackStatus written step found alive handled path =>
      refine ⟨?_, fun unlocked => locked.lock (handled.iteration.frame.unlock unlocked)⟩
      cases path.outcome rfl found with
      | ordinary written' step ordinary gated =>
        exact ordinary.iteration.satisfies (locked_stable locked.lock _ _) locked.satisfies
      | upsize middle rack living made => exact absurd next (Outcome.upsizeFlow_ne _)
  · intro position _ pass step locked iteration stops
    cases iteration with
    | nameless => exact locked.ends
    | added => exact absurd rfl stops
    | deleting => exact absurd rfl stops
    | handled rackStatus written step found alive handled path =>
      exact (path.outcome rfl found).isolated locked

end Loop

/-! ## The seed list -/

/-- All racks of the topology have a status, and none of them is new. -/
def NoneNew (spec : CassandraClusterSpec) (racks : RackStatuses) : Prop :=
  ∀ name ∈ spec.racksInOrder, ∃ rack, racks.lookup name = some rack ∧
    rack.cassandraLastAction.name ≠ .initializing

theorem RackChange.notNew {dcRackName : String} {rack' : CassandraRackStatus}
    (change : RackChange spec dcRackName answers rack rack')
    (old : rack.cassandraLastAction.name ≠ .initializing) :
    rack'.cassandraLastAction.name ≠ .initializing := by
  cases change with
  | ordinary change =>
    cases change with
    | observed change =>
      cases change with
      | detected free known =>
        simp only [detectedActions, List.mem_cons, List.not_mem_nil, or_false] at known
        rcases known with rfl | rfl | rfl | rfl | rfl
        all_goals simp [setAction]
      | abortInitializing => simp [setDecommissionStatus]
      | scaleDown => simp [setAction]
      | upsize => simp [startUpsizeAction]
      | revisionChanged => simp
      | startResources =>
        unfold startUpdateResources
        split <;> exact old
      | phase | initialized | ended => exact old
    | decommission change => cases change <;> exact old
    | operation change =>
      cases change
      exact old
    | update change =>
      cases change with
      | started => exact old
      | written =>
        unfold actionOnWrite
        dsimp only
        repeat' split
        all_goals first | exact old | simp
  | upsize change =>
    cases change with
    | pending | saved => exact old
    | finalized => simp [finalizeUpsizeAction]

variable {name : String}

namespace NoneNew

theorem ofFlagged {flags : Prop} {after : RackStatuses} (allOld : NoneNew spec racks)
    (flagged : Flagged flags racks after) : NoneNew spec after := by
  intro name member
  obtain ⟨rack, found, old⟩ := allOld name member
  rcases flagged name with kept | ⟨_, now, _, _, changed⟩
  · exact ⟨rack, kept.trans found, old⟩
  · exact ⟨_, changed, by simp [flagUpdateResources]⟩

theorem added (allOld : NoneNew spec racks) (absent : racks.lookup name = none) :
    NoneNew spec (racks.insert name initialRackStatus) := by
  intro other member
  obtain ⟨rack, found, old⟩ := allOld other member
  have different : other ≠ name := by
    rintro rfl
    rw [absent] at found
    cases found
  exact ⟨rack, (Finmap.lookup_insert_of_ne racks different).trans found, old⟩

end NoneNew

theorem dcIsConfiguring_true (names : List String)
    (old : ∀ name ∈ names, ∃ rack, racks.lookup name = some rack ∧ rack.cassandraLastAction.name ≠
      .initializing) (configuring : dcIsConfiguring racks names = some true) :
    ∀ name ∈ names, ∀ rack, racks.lookup name = some rack →
      rack.cassandraLastAction.name = .updateSeedList := by
  induction names with
  | nil => simp
  | cons first names induction =>
    obtain ⟨rack, found, notNew⟩ := old first List.mem_cons_self
    unfold dcIsConfiguring at configuring
    rw [found] at configuring
    dsimp only at configuring
    split at configuring
    · rename_i seeds
      intro name member
      rcases List.mem_cons.mp member with rfl | later
      · intro other same
        rw [found, Option.some.injEq] at same
        rw [← same]
        exact seeds.1
      · exact induction (fun other member => old other (List.mem_cons_of_mem _ member))
          configuring name later
    · simp only [Option.some.injEq, beq_iff_eq] at configuring
      exact absurd configuring notNew

theorem allConfiguring_true (dcs : List (List String))
    (old : ∀ names ∈ dcs, ∀ name ∈ names, ∃ rack, racks.lookup name = some rack ∧
      rack.cassandraLastAction.name ≠ .initializing)
    (configuring : allConfiguring racks dcs = some true) :
    ∀ names ∈ dcs, ∀ name ∈ names, ∀ rack, racks.lookup name = some rack →
      rack.cassandraLastAction.name = .updateSeedList := by
  induction dcs with
  | nil => simp
  | cons first dcs induction =>
    unfold allConfiguring at configuring
    split at configuring
    · cases configuring
    · rename_i here answer
      obtain ⟨rest, later, both⟩ := Option.map_eq_some_iff.mp configuring
      obtain ⟨rfl, rfl⟩ := Bool.and_eq_true_iff.mp both
      intro names member
      rcases List.mem_cons.mp member with rfl | other
      · exact dcIsConfiguring_true names (old names List.mem_cons_self) answer
      · exact induction (fun names member => old names (List.mem_cons_of_mem _ member)) later
          names other

/-- Isolated racks, of which those of the topology are about to take over the seed
list. -/
structure Seeding (spec : CassandraClusterSpec) (racks : RackStatuses) : Prop where
  isolated : AllIsolated racks
  named : ∀ name ∈ spec.racksInOrder, ∀ rack, racks.lookup name = some rack →
    rack.cassandraLastAction.name = .updateSeedList

theorem Seeding.seed (seeding : Seeding spec racks) (member : name ∈ spec.racksInOrder)
    (found : racks.lookup name = some rack) :
    Seeding spec (racks.insert name (seedListToDo rack)) := by
  have isolated := seeding.isolated name rack found
  have action := seeding.named name member rack found
  refine ⟨seeding.isolated.insert name (isolated.seeded (isolated.unsaved (by simp [action]))),
    fun other listed current lookup => ?_⟩
  by_cases same : other = name
  · rw [same, Finmap.lookup_insert, Option.some.injEq] at lookup
    rw [← lookup]
    unfold seedListToDo
    split
    · exact action
    · rfl
  · rw [Finmap.lookup_insert_of_ne racks same] at lookup
    exact seeding.named other listed current lookup

/-- The seed list is taken over by racks that are not being upsized. -/
theorem ensureSeedListIsUpdatedWhenRequired_isolated (spec : CassandraClusterSpec)
    (status : CassandraClusterStatus) (all : AllIsolated status.cassandraRackStatus)
    (seeds : status.lastClusterAction = .updateSeedList →
      status.lastClusterActionStatus = .configuring →
      NoneNew spec status.cassandraRackStatus) :
    AllIsolated (ensureSeedListIsUpdatedWhenRequired spec status).1.cassandraRackStatus := by
  unfold ensureSeedListIsUpdatedWhenRequired
  split
  · rename_i asked
    have allOld := seeds asked.1 asked.2
    split
    · exact all
    · exact all
    · rename_i configuring
      have updating := allConfiguring_true _ (fun names member name inside => by
        obtain ⟨dc, known, rfl⟩ := List.mem_map.mp member
        exact allOld name (List.mem_flatMap.mpr ⟨dc, known, inside⟩)) configuring
      have named : ∀ name ∈ spec.racksInOrder, ∀ rack,
          status.cassandraRackStatus.lookup name = some rack →
          rack.cassandraLastAction.name = .updateSeedList := by
        intro name member
        obtain ⟨dc, known, inside⟩ := List.mem_flatMap.mp member
        exact updating _ (List.mem_map.mpr ⟨dc, known, rfl⟩) name inside
      have flagged := @flagSeedList_keeps (Seeding spec) spec.racksInOrder
        (fun name member racks rack holds found => holds.seed member found) _ ⟨all, named⟩
      exact flagged.isolated
  · exact all

theorem CassandraClusterSpec.racksInOrder_of_settled {spec' : CassandraClusterSpec}
    (same : spec'.settled = spec.settled) : spec'.racksInOrder = spec.racksInOrder := by
  have settled : ∀ spec : CassandraClusterSpec, spec.settled.racksInOrder = spec.racksInOrder := by
    intro spec
    have size : spec.settled.getDCSize = spec.getDCSize := by
      simp [getDCSize, CassandraClusterSpec.settled]
    have racks : ∀ dc, spec.settled.getRackSize dc = spec.getRackSize dc := by
      intro dc
      cases found : spec.topology.dc[dc]? <;>
        simp [getRackSize, CassandraClusterSpec.settled, found, DC.settled]
    unfold racksInOrder racksOfDC
    simp only [size, racks, completeRackName_settled]
  rw [← settled spec', same, settled spec]

section Seeds

variable {spec : CassandraClusterSpec} {platform : Platform}

/-- No rack is new at some point of the loop. -/
structure OldRacks (spec : CassandraClusterSpec) (pass : Pass) : Prop where
  settled : pass.cc.spec.settled = spec.settled
  racks : Satisfies (NoneNew spec) (fun _ => True) pass

theorem noneNew_stable (spec handled : CassandraClusterSpec) (dcRackName : String)
    (answers : RackAnswers) :
    Stable (.handling handled dcRackName answers) dcRackName (NoneNew spec) (fun _ => True) := by
  refine ⟨fun racks allOld absent => allOld.added absent,
    fun racks rack rack' allOld found change => ?_, fun _ _ => trivial, fun _ _ _ _ _ _ => trivial⟩
  intro other member
  obtain ⟨current, present, old⟩ := allOld other member
  by_cases same : other = dcRackName
  · rw [same, found, Option.some.injEq] at present
    rw [← present] at old
    exact ⟨rack', by rw [same, Finmap.lookup_insert], change.notNew old⟩
  · exact ⟨current, (Finmap.lookup_insert_of_ne racks same).trans present, old⟩

theorem reconcileRacks_oldRacks (answers : ReconcileAnswers) (old : OldRacks spec ready) :
    OldRacks spec (ready.looped platform answers) := by
  refine reconcileRacks_invariant platform answers.racks _ ?_ ready false old
  intro position _ pass step old iteration
  cases iteration with
  | nameless => exact old
  | added absent =>
    exact ⟨old.settled, old.racks.working.added absent, trivial, fun _ _ _ => trivial⟩
  | deleting => exact ⟨old.settled, old.racks.emit fun _ _ _ => trivial⟩
  | handled rackStatus written step found alive handled path =>
    exact ⟨handled.iteration.frame.spec.trans old.settled,
      handled.iteration.satisfies (noneNew_stable spec _ _ _) old.racks⟩

end Seeds

/-! ## Runs -/

/-- Nothing replaces the action of a rack that is being upsized: with a snapshot there
are no new resources and no unlocked operation, and while the seed list is taken over
no rack is new. -/
structure CassandraCluster.Undisturbed (cc : CassandraCluster) : Prop where
  locked : (∃ name, snapshotOf cc.status.cassandraRackStatus name ≠ none) →
    ¬ cc.NewResources ∧ cc.spec.unlockNextOperation = false
  seeds : cc.status.lastClusterAction = .updateSeedList →
    cc.status.lastClusterActionStatus = .configuring →
    NoneNew cc.spec cc.status.cassandraRackStatus

theorem CassandraClusterSpec.checkDefaults_fields (spec : CassandraClusterSpec) :
    spec.checkDefaults.resources = spec.resources ∧
      spec.checkDefaults.unlockNextOperation = spec.unlockNextOperation ∧
      spec.checkDefaults.racksInOrder = spec.racksInOrder := by
  unfold checkDefaults
  split <;> exact ⟨rfl, rfl, rfl⟩

section Passes

variable (platform : Platform) {cc : CassandraCluster} {answers : ReconcileAnswers}

theorem Started.newResources {start : Pass} (started : Started cc start)
    (asked : start.cc.NewResources) : cc.NewResources := by
  unfold CassandraCluster.NewResources at asked ⊢
  rw [started.applied, started.spec, (cc.spec.checkDefaults_fields).1] at asked
  exact asked

theorem CassandraCluster.Undisturbed.unsaved (undisturbed : cc.Undisturbed)
    (disturbs : cc.NewResources ∨ cc.spec.unlockNextOperation = true) (name : String) :
    snapshotOf cc.status.cassandraRackStatus name = none := by
  by_contra saved
  obtain ⟨same, locked⟩ := undisturbed.locked ⟨name, saved⟩
  rcases disturbs with asked | unlocked
  · exact same asked
  · rw [locked] at unlocked
    cases unlocked

theorem Ready.isolated {start : Pass} (started : Started cc start)
    (isReady : Ready start answers ready) (undisturbed : cc.Undisturbed)
    (all : AllIsolated cc.status.cassandraRackStatus) :
    let looped := ready.looped platform answers
    Throughout AllIsolated looped ∧
      AllIsolated (ensureSeedListIsUpdatedWhenRequired looped.cc.spec
        looped.status).1.cassandraRackStatus := by
  intro looped
  have flagged := isReady.flagged
  rw [started.status] at flagged
  have unlock : ready.cc.spec.unlockNextOperation = cc.spec.unlockNextOperation := by
    rw [isReady.spec, started.spec]
    exact cc.spec.checkDefaults_fields.2.1
  have locked : LockedPass cc.spec.unlockNextOperation ready := by
    refine ⟨⟨⟨all.ofFlagged (fun asked => undisturbed.unsaved
      (Or.inl (started.newResources asked))) flagged.fromFlagged, fun unlocked name => ?_⟩, ?_,
      fun status succeeded member => ?_⟩, fun unlocked => unlock ▸ unlocked⟩
    · rw [(flagged name).snapshotOf]
      exact undisturbed.unsaved (Or.inr unlocked) name
    · rw [isReady.object, started.status]
      exact all
    · rw [isReady.effects] at member
      exact absurd member (started.unwritten status succeeded)
  have satisfies : Throughout AllIsolated looped := reconcileRacks_isolated answers locked
  refine ⟨satisfies, ensureSeedListIsUpdatedWhenRequired_isolated _ _ satisfies.working ?_⟩
  intro action status
  have cluster := (isReady.agreesOn started.unwritten platform).working
  rw [started.status] at cluster
  have same : ready.cc.spec.racksInOrder = cc.spec.racksInOrder := by
    rw [isReady.spec, started.spec]
    exact cc.spec.checkDefaults_fields.2.2
  have begins : NoneNew ready.cc.spec ready.status.cassandraRackStatus := by
    have old := undisturbed.seeds
      ((congrArg (fun cluster => cluster.2.1) cluster).symm.trans action)
      ((congrArg (fun cluster => cluster.2.2) cluster).symm.trans status)
    unfold NoneNew at old ⊢
    rw [same]
    exact NoneNew.ofFlagged old flagged
  have ends := @reconcileRacks_oldRacks ready ready.cc.spec platform answers
    ⟨rfl, begins, trivial, fun _ _ _ => trivial⟩
  have final := ends.racks.working
  unfold NoneNew at final ⊢
  rw [CassandraClusterSpec.racksInOrder_of_settled ends.settled]
  exact final

theorem reconcile_isolated (memory : Memory) (undisturbed : cc.Undisturbed)
    (all : AllIsolated cc.status.cassandraRackStatus) {status : CassandraClusterStatus}
    {succeeded : Bool}
    (member : .updateClusterStatus status succeeded ∈
      (reconcile platform memory cc answers).effects) :
    AllIsolated status.cassandraRackStatus := by
  cases reconcile_loopCase platform memory cc answers with
  | quiet outer racks =>
    cases racks status succeeded member with
    | fresh unset initial => exact AllIsolated.ofInitial initial
    | checked start started from' whole =>
      exact all.ofFlagged (fun asked => undisturbed.unsaved
        (Or.inl (started.newResources asked))) from'
  | loop start ready started isReady last outer effects racks =>
    obtain ⟨looped, seeded⟩ := isReady.isolated platform started undisturbed all
    rw [effects] at member
    rcases List.mem_append.mp member with old | new
    · exact looped.written status succeeded old
    · rcases racks status succeeded new with same | seeds
      · rw [same]
        exact looped.working
      · rw [seeds]
        exact seeded

end Passes

variable {world : World}

namespace World

def Undisturbed (world : World) : Event → Prop
  | .pass _ => world.cluster.Undisturbed
  | _ => True

def Isolates (world : World) : Prop := AllIsolated world.cluster.status.cassandraRackStatus

theorem Isolates.step (platform : Platform) {event : Event} (isolates : world.Isolates)
    (undisturbed : world.Undisturbed event) : (world.step platform event).Isolates := by
  cases event with
  | edit | restart => exact isolates
  | pass answers =>
    exact pass_racks platform world answers isolates (fun _ all => all.serialized)
      fun _ _ member => reconcile_isolated platform world.memory undisturbed isolates member

theorem snapshot_eq_some {saved : StatefulSet} (stored : world.snapshot name = some saved) :
    ∃ rack, world.rackStatus name = some rack ∧
      rack.statefulSetSnapshotBeforeStorageResize = some saved :=
  Option.bind_eq_some_iff.mp stored

theorem step_saves (platform : Platform) {event : Event} {saved : StatefulSet}
    (different : world.snapshot name ≠ some saved)
    (stored : (world.step platform event).snapshot name = some saved) :
    ∃ answers read, event = .pass answers ∧ world.snapshot name = none ∧
      ReadsAt world.cluster.spec.checkDefaults answers name read ∧
      saved = prepareStatefulSetSnapshot read := by
  cases event with
  | edit | restart => exact absurd stored different
  | pass answers =>
    have passSnapshot := @reconcile_snapshot name _ platform world.cluster answers world.memory
      rfl
    cases passSnapshot with
    | kept written upsizes =>
      have same := @step_snapshot name world platform
        (fun after => after = world.snapshot name) answers rfl written
      exact absurd (same.symm.trans stored) different
    | changed after change written quiet =>
      have ends := @step_snapshot name world platform
        (fun ends => ends = world.snapshot name ∨ ends = after) answers (Or.inl rfl) written
      rcases ends with same | same
      · exact absurd (same.symm.trans stored) different
      · rw [← same, stored] at change
        obtain ⟨unsaved, read, reads, built⟩ := change.saves
        exact ⟨answers, read, rfl, unsaved, reads, built⟩
    | reset resets written quiet =>
      have ends := @step_snapshot name world platform
        (fun ends => ends = world.snapshot name ∨ ends = none) answers (Or.inl rfl) written
      rcases ends with same | gone
      · exact absurd (same.symm.trans stored) different
      · rw [stored] at gone
        cases gone

/-- Along an undisturbed run a snapshot belongs to a storage upsize that goes on, and a
StatefulSet is rebuilt from the snapshot that this upsize has taken. -/
theorem upsize_isolated (platform : Platform) (start : World) (events : List Event)
    (begins : ∀ name rack, start.rackStatus name = some rack →
      rack.statefulSetSnapshotBeforeStorageResize = none ∧
        rack.cassandraLastAction.name ≠ .storageUpsize)
    (undisturbed : Runs.Meets (World.step platform) Undisturbed start events) :
    let world := Runs.run (World.step platform) start events
    (∀ name rack, world.rackStatus name = some rack →
        rack.statefulSetSnapshotBeforeStorageResize ≠ none →
        rack.cassandraLastAction.name = .storageUpsize ∧
          rack.cassandraLastAction.status ≠ .done) ∧
      ∀ answers name sts succeeded,
        .recreateStatefulSet name sts succeeded ∈ (world.pass platform answers).effects →
        ∃ first saving second read quantity, events = first ++ .pass saving :: second ∧
          (Runs.run (World.step platform) start first).snapshot name = none ∧
          ReadsAt (Runs.run (World.step platform) start first).cluster.spec.checkDefaults saving
            name read ∧
          (∀ middle, middle <+: second → ∃ rack,
            (Runs.run (World.step platform) start
              (first ++ .pass saving :: middle)).rackStatus name = some rack ∧
            rack.statefulSetSnapshotBeforeStorageResize =
              some (prepareStatefulSetSnapshot read) ∧
            isStorageUpsizeStarted rack = true) ∧
          setNewDataCapacity (prepareStatefulSetSnapshot read) quantity = .updated sts := by
  intro world
  have initial : start.Isolates := by
    intro name rack found
    obtain ⟨unsaved, other⟩ := begins name rack found
    exact Isolated.ofUnsaved unsaved fun upsizing => absurd upsizing other
  have throughout : ∀ events, Runs.Meets (World.step platform) Undisturbed start events →
      (Runs.run (World.step platform) start events).Isolates := fun events meets =>
    @Runs.Meets.keeps _ _ _ _ _ Isolates events meets initial
      fun _ _ isolates undisturbed => isolates.step platform undisturbed
  constructor
  · intro name rack found saved
    obtain ⟨action, status, _⟩ := (throughout events undisturbed name rack found).upsizing saved
    exact ⟨action, by simp [status]⟩
  · intro answers name sts succeeded member
    obtain ⟨_, from', _⟩ := pass_upsizes platform answers member (beq_self_eq_true name)
    cases from' with
    | other effect unrelated => simp [Effect.upsizes] at unrelated
    | recreate saved sts has quantity built succeeded =>
      have unsaved : start.snapshot name ≠ some saved := by
        intro stored
        obtain ⟨rack, found, snapshot⟩ := snapshot_eq_some stored
        rw [(begins name rack found).1] at snapshot
        cases snapshot
      obtain ⟨first, event, second, rfl, different, stays⟩ :=
        @Runs.exists_last_change _ _ (World.step platform) start _
          (fun state : World => state.snapshot name) _ events unsaved has
      obtain ⟨saving, read, rfl, none, reads, rfl⟩ :=
        step_saves platform different (stays [] List.nil_prefix)
      refine ⟨first, saving, second, read, quantity, rfl, none, reads, fun middle before => ?_,
        built⟩
      have stored := stays middle before
      rw [← Runs.run_cons, ← Runs.run_append] at stored
      obtain ⟨rack, found, snapshot⟩ := snapshot_eq_some stored
      obtain ⟨rest, rfl⟩ := before
      have meets : Runs.Meets (World.step platform) Undisturbed start
          (first ++ .pass saving :: middle) := by
        rw [← List.cons_append, ← List.append_assoc] at undisturbed
        exact (Runs.Meets.append.mp undisturbed).1
      obtain ⟨action, status, _⟩ := (throughout _ meets name rack found).upsizing
        (by simp [snapshot])
      exact ⟨rack, found, snapshot, by simp [isStorageUpsizeStarted, action, status]⟩

/-- An edit of the resources arrives after the StatefulSet was saved. -/
def resourcesDuringUpsize : List Event :=
  savedCapacity ++
    [.edit demoMeta
      { sizedSpec "20Gi" "" with resources := { requests := some [("cpu", { value := 2 })] } },
    .pass (sizedPass 1000 (.ok (sizedStatefulSet [dataTemplate 5])))]

/-- New resources replace the action of a rack that is being upsized and leave its
snapshot behind. -/
theorem upsize_interrupted :
    let start := sizedWorld (sizedSpec "5Gi" "") [dataTemplate 5]
    let world := Runs.run (World.step sizedPlatform) start resourcesDuringUpsize
    (start.rackStatus "dc1-rack1").any (fun rack =>
        rack.statefulSetSnapshotBeforeStorageResize.isNone &&
          rack.cassandraLastAction.name != .storageUpsize) = true ∧
      (world.rackStatus "dc1-rack1").any (fun rack =>
        rack.statefulSetSnapshotBeforeStorageResize.isSome &&
          rack.cassandraLastAction.name == .updateResources) = true := by
  refine ⟨by decide, by decide⟩

/-- The passes of an upsize before the StatefulSet is rebuilt. -/
def upsizeEvents : List Event := savedCapacity ++ [.pass deletingPass]

def deletedWorld : World :=
  Runs.run (World.step sizedPlatform) (sizedWorld (sizedSpec "5Gi" "") [dataTemplate 5])
    upsizeEvents

theorem sizedWorld_racks {templates : List PersistentVolumeClaim}
    (found : (sizedWorld spec templates).rackStatus name = some rack) : rack = idleRack :=
  GoMap.eq_of_lookup_singleton found

theorem upsizeEvents_undisturbed :
    Runs.Meets (World.step sizedPlatform) Undisturbed
      (sizedWorld (sizedSpec "5Gi" "") [dataTemplate 5]) upsizeEvents := by
  have edited : ∀ name, (sizedWorld (sizedSpec "5Gi" "") [dataTemplate 5]).snapshot name =
      none := by
    intro name
    by_contra saved
    obtain ⟨sts, stored⟩ := Option.ne_none_iff_exists'.mp saved
    obtain ⟨rack, found, snapshot⟩ := snapshot_eq_some stored
    rw [sizedWorld_racks found] at snapshot
    cases snapshot
  have applied : savedWorld.cluster.annotation =
      .config { metadata := demoMeta, spec := sizedSpec "20Gi" "" } := by decide
  have resources : ¬ savedWorld.cluster.NewResources := by
    rintro ⟨old, config, differ⟩
    rw [applied] at config
    cases config
    exact differ (by decide)
  refine ⟨trivial, ⟨fun saved => ?_, fun action => ?_⟩,
    ⟨fun _ => ⟨resources, by decide⟩, fun action => ?_⟩, trivial⟩
  · obtain ⟨name, saved⟩ := saved
    exact absurd (edited name) saved
  · exact absurd action (by decide)
  · exact absurd action (by decide)

/-- The StatefulSet that was saved, deleted and then rebuilt. -/
theorem upsize_isolated_upsizeEvents :
    ∃ sts succeeded, .recreateStatefulSet "dc1-rack1" sts succeeded ∈
        (deletedWorld.pass sizedPlatform rebuildingPass).effects ∧
      ∃ read quantity,
        setNewDataCapacity (prepareStatefulSetSnapshot read) quantity = .updated sts := by
  have begins : ∀ name rack, (sizedWorld (sizedSpec "5Gi" "") [dataTemplate 5]).rackStatus name =
      some rack → rack.statefulSetSnapshotBeforeStorageResize = none ∧
        rack.cassandraLastAction.name ≠ .storageUpsize := by
    intro name rack found
    rw [sizedWorld_racks found]
    exact ⟨rfl, by decide⟩
  have rebuilds : (deletedWorld.pass sizedPlatform rebuildingPass).effects.any (fun effect =>
      match effect with
      | .recreateStatefulSet name _ _ => name == "dc1-rack1"
      | _ => false) = true := by decide
  obtain ⟨effect, member, named⟩ := List.any_eq_true.mp rebuilds
  split at named
  · rename_i name sts succeeded
    cases beq_iff_eq.mp named
    obtain ⟨_, _, _, read, quantity, _, _, _, _, built⟩ :=
      (upsize_isolated sizedPlatform _ upsizeEvents begins upsizeEvents_undisturbed).2
        rebuildingPass "dc1-rack1" sts succeeded member
    exact ⟨sts, succeeded, member, read, quantity, built⟩
  · cases named

end World

end Casskop
