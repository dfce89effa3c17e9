import Casskop.Controller.Shrinking
import Casskop.Validation.StorageClass

/-!
# Faults of the check

`CheckNonAllowedChanges` takes old settings from the position of a new DC, and the status of
every rack of the new topology.  Both may be missing when the edit adds a DC.
-/

namespace Casskop

/-! ## Positions -/

/-- At no position beyond the old topology is a capacity or a class put back. -/
def PositionsKnown (platform : Platform) (oldSpec requested : CassandraClusterSpec) : Prop :=
  ∀ position < requested.dcNames.length, oldSpec.dcNames.length ≤ position →
    (capacityRepair platform oldSpec requested).fires
        ((capacityRepair platform oldSpec requested).reached requested.capacities position)
        position = false ∧
      (classRepair platform oldSpec requested).fires
        ((classRepair platform oldSpec requested).reached requested.classes position)
        position = false

section Positions

variable {platform : Platform} {oldSpec requested : CassandraClusterSpec}

theorem positionsKnown_iff :
    PositionsKnown platform oldSpec requested ↔
      ((capacityRepair platform oldSpec requested).run requested.capacities
          requested.dcNames.length).isSome = true ∧
        ((classRepair platform oldSpec requested).run requested.classes
          requested.dcNames.length).isSome = true := by
  have capacities : (capacityRepair platform oldSpec requested).old.own.length =
      oldSpec.dcNames.length := oldSpec.length_dcCapacities
  have classes : (classRepair platform oldSpec requested).old.own.length =
      oldSpec.dcNames.length := by
    change oldSpec.dcClasses.length = _
    simp [CassandraClusterSpec.dcClasses, CassandraClusterSpec.dcNames]
  rw [Positions.Repair.run_isSome_iff, Positions.Repair.run_isSome_iff, capacities, classes]
  constructor
  · intro known
    exact ⟨fun position inside beyond => (known position inside beyond).1,
      fun position inside beyond => (known position inside beyond).2⟩
  · rintro ⟨capacities, classes⟩ position inside beyond
    exact ⟨capacities position inside beyond, classes position inside beyond⟩

theorem checkSettings_faultless_iff (needUpdate : Bool) :
    (checkSettings platform needUpdate requested oldSpec).fault = false ↔
      PositionsKnown platform oldSpec requested := by
  rw [positionsKnown_iff]
  rcases @checkSettings_loopAt platform oldSpec requested needUpdate with
    ⟨sound, settings⟩ | ⟨faulty, stuck⟩
  · rw [settings.capacities, settings.classes]
    exact iff_of_true sound ⟨rfl, rfl⟩
  · refine iff_of_false (by simp [faulty]) ?_
    rintro ⟨capacities, classes⟩
    rcases stuck with none | none
    · rw [none] at capacities
      cases capacities
    · rw [none] at classes
      cases classes

end Positions

/-! ## Racks that are removed -/

/-- The names of the racks to remove have the DC in front of a dash. -/
def RemovedNamed (cc : CassandraCluster) : Prop :=
  ∀ name ∈ cc.status.cassandraRackStatus, name ∉ (initCassandraRackList cc.spec).racks →
    (getDCNameFromDCRackName name).isSome = true

theorem deleteRackObjects_faultless_iff (clusterName : String) (names : List String) :
    (deleteRackObjects clusterName names).fault = false ↔
      ∀ name ∈ names, (getDCNameFromDCRackName name).isSome = true := by
  induction names with
  | nil => simp [deleteRackObjects]
  | cons name names induction =>
    unfold deleteRackObjects
    rw [List.forall_mem_cons]
    cases found : getDCNameFromDCRackName name with
    | none => simp
    | some dcName => simpa using induction

theorem deleteDCObjects_faultless_iff (cc : CassandraCluster) (status : CassandraClusterStatus)
    (order : MapOrder cc.status.cassandraRackStatus) :
    (deleteDCObjects cc status order).deletion.fault = false ↔ RemovedNamed cc := by
  have listed : RemovedNamed cc ↔
      ∀ name ∈ fixCassandraRackList cc order, (getDCNameFromDCRackName name).isSome = true := by
    unfold RemovedNamed fixCassandraRackList
    simp only [List.mem_filter, order.mem_keys_iff, decide_eq_true_eq, and_imp]
  rw [listed]
  unfold deleteDCObjects
  dsimp only
  split
  · rename_i none
    rw [List.isEmpty_iff.mp none]
    simp
  · exact deleteRackObjects_faultless_iff _ _

theorem checkTopologyChanges_faultless_iff (cc : CassandraCluster) (status : CassandraClusterStatus)
    (oldSpec : CassandraClusterSpec) (order : MapOrder cc.status.cassandraRackStatus) :
    (checkTopologyChanges cc status oldSpec order).deletion.fault = false ↔
      (RemovesDC cc oldSpec → RemovedNamed cc) := by
  refine checkTopologyChanges_elim cc status oldSpec order ?refuses ?removes ?keeps
  case refuses =>
    intro refused
    exact iff_of_true rfl fun removes => absurd refused removes.not_refused
  case removes =>
    intro removes
    rw [deleteDCObjects_faultless_iff]
    exact ⟨fun named _ => named, fun named => named removes⟩
  case keeps =>
    intro _ enough
    exact iff_of_true rfl fun removes => absurd removes.fewer enough

/-! ## Racks that are flagged -/

/-- The topology is let through: the edit removes no rack, or none that has a status. -/
structure KeepsRacks (cc : CassandraCluster) (oldSpec : CassandraClusterSpec) : Prop where
  topology : topologyChangeRefused oldSpec.topology cc.spec.topology = false
  single : oldSpec.getDCSize ≤ cc.spec.getDCSize + 1
  racks : cc.spec.getDCRackSize < oldSpec.getDCRackSize →
    scaleDownRunning cc = false ∧ removedDCHasNodes cc oldSpec = false ∧
      ∀ name ∈ cc.status.cassandraRackStatus, name ∈ (initCassandraRackList cc.spec).racks

theorem KeepsRacks.not_refused {cc : CassandraCluster} {oldSpec : CassandraClusterSpec}
    (keeps : KeepsRacks cc oldSpec) : ¬ EditRefused cc oldSpec := by
  rintro (refused | several | ⟨fewer, running | nodes⟩)
  · exact absurd refused (Bool.eq_false_iff.mp keeps.topology)
  · exact absurd keeps.single (Nat.not_le.mpr several)
  · exact absurd running (Bool.eq_false_iff.mp (keeps.racks fewer).1)
  · exact absurd nodes (Bool.eq_false_iff.mp (keeps.racks fewer).2.1)

/-- The edit changes resources and nothing of it is refused. -/
structure FlagsRacks (cc : CassandraCluster) (oldSpec : CassandraClusterSpec)
    (answers : ChangeAnswers) : Prop where
  topology : KeepsRacks cc oldSpec
  scaleDown : ¬ ScaleDownStopped cc.spec answers.scaleDown
  resources : cc.spec.resources ≠ oldSpec.resources

/-- Every rack of the topology has a status. -/
def RacksListed (spec : CassandraClusterSpec) (status : CassandraClusterStatus) : Prop :=
  ∀ position ∈ spec.rackPositions,
    (status.cassandraRackStatus.lookup
      (spec.completeRackName position.1 position.2).dcRackName).isSome = true

theorem checkScaleDownAndResources_faultless_iff (spec oldSpec : CassandraClusterSpec)
    (status : CassandraClusterStatus) (answers : ChangeAnswers) :
    (checkScaleDownAndResources spec oldSpec status answers).fault = false ↔
      (¬ ScaleDownStopped spec answers.scaleDown → spec.resources ≠ oldSpec.resources →
        RacksListed spec status) := by
  rw [← checkNonAllowedScaleDown_refused_iff spec oldSpec]
  unfold checkScaleDownAndResources
  dsimp only
  split
  · rename_i refused
    exact iff_of_true rfl fun accepted => absurd refused accepted
  rename_i accepted
  split
  · rename_i same
    exact iff_of_true rfl fun _ differs => absurd same differs
  · rename_i differs
    dsimp only
    rw [flagRacks_eq, updateAll_returns_iff, List.forall_mem_map]
    exact ⟨fun listed _ _ => listed, fun listed => listed accepted differs⟩

theorem deleteDCObjects_unchanged_iff (cc : CassandraCluster) (status : CassandraClusterStatus)
    (order : MapOrder cc.status.cassandraRackStatus) :
    (deleteDCObjects cc status order).changed = false ↔
      ∀ name ∈ cc.status.cassandraRackStatus, name ∈ (initCassandraRackList cc.spec).racks := by
  have listed : fixCassandraRackList cc order = [] ↔
      ∀ name ∈ cc.status.cassandraRackStatus, name ∈ (initCassandraRackList cc.spec).racks := by
    unfold fixCassandraRackList
    simp only [List.filter_eq_nil_iff, order.mem_keys_iff, decide_eq_true_eq, not_not]
  rw [← listed, ← List.isEmpty_iff]
  unfold deleteDCObjects
  dsimp only
  split
  · rename_i none
    exact iff_of_true rfl none
  · rename_i some
    exact iff_of_false (by simp) some

theorem checkTopologyChanges_unchanged_iff (cc : CassandraCluster) (status : CassandraClusterStatus)
    (oldSpec : CassandraClusterSpec) (order : MapOrder cc.status.cassandraRackStatus) :
    (checkTopologyChanges cc status oldSpec order).changed = false ↔ KeepsRacks cc oldSpec := by
  refine checkTopologyChanges_elim cc status oldSpec order ?refuses ?removes ?keeps
  case refuses =>
    intro refused
    exact iff_of_false (by simp) fun keeps => keeps.not_refused refused
  case removes =>
    intro removes
    rw [deleteDCObjects_unchanged_iff]
    constructor
    · intro declared
      exact ⟨removes.topology, removes.single, fun _ =>
        ⟨removes.settled, removes.empty, declared⟩⟩
    · intro keeps
      exact (keeps.racks removes.fewer).2.2
  case keeps =>
    intro accepted enough
    obtain ⟨unrefused, single, _⟩ := not_or.mp accepted |>.imp_right not_or.mp
    exact iff_of_true rfl ⟨Bool.eq_false_iff.mpr unrefused, Nat.not_lt.mp single,
      fun fewer => absurd fewer enough⟩

theorem checkTopologyAndScaleDown_faultless_iff (cc : CassandraCluster)
    (oldSpec : CassandraClusterSpec) (status : CassandraClusterStatus) (answers : ChangeAnswers) :
    (checkTopologyAndScaleDown cc oldSpec status answers).fault = false ↔
      (RemovesDC cc oldSpec → RemovedNamed cc) ∧
        (FlagsRacks cc oldSpec answers → RacksListed cc.spec status) := by
  unfold checkTopologyAndScaleDown
  dsimp only
  generalize answers.order cc.status.cassandraRackStatus = order
  have through := checkTopologyChanges_unchanged_iff cc status oldSpec order
  have unchanged := checkTopologyChanges_unchanged cc status oldSpec order
  rw [← checkTopologyChanges_faultless_iff cc status oldSpec order]
  split
  · rename_i faulty
    exact iff_of_false (by simp) fun both => by simp [faulty] at both
  rename_i sound
  have sound' := Bool.eq_false_iff.mpr sound
  split
  · rename_i changed
    refine iff_of_true rfl ⟨sound', fun flags => ?_⟩
    exact absurd changed (Bool.eq_false_iff.mp (through.mpr flags.topology))
  · rename_i same
    have same' := Bool.eq_false_iff.mpr same
    rw [(unchanged same').1, checkScaleDownAndResources_faultless_iff]
    constructor
    · intro listed
      exact ⟨sound', fun flags => listed flags.scaleDown flags.resources⟩
    · intro both accepted differs
      exact both.2 ⟨through.mp same', accepted, differs⟩

/-! ## The whole check -/

/-- No setting of the edit is refused, and no correction of an earlier pass is left. -/
structure SettingsAccepted (platform : Platform) (needUpdate : Bool)
    (oldSpec requested : CassandraClusterSpec) : Prop where
  fresh : needUpdate = false
  nodes : requested.nodesPerRacks ≠ 0
  each : ∀ dc < requested.getDCSize,
    ¬ AsksForLess platform oldSpec requested (requested.getDCName dc) ∧
      SameStorageClass oldSpec requested dc

theorem settingsAccepted_iff {platform : Platform} {needUpdate : Bool}
    {oldSpec requested : CassandraClusterSpec} :
    SettingsAccepted platform needUpdate oldSpec requested ↔
      ¬ (checkSettings platform needUpdate requested oldSpec).Touched := by
  rw [checkSettings_untouched_iff]
  exact ⟨fun accepted => ⟨accepted.fresh, accepted.nodes, accepted.each⟩,
    fun untouched => ⟨untouched.1, untouched.2.1, untouched.2.2⟩⟩

/-- The check runs through when the settings that it puts back exist, the racks of a DC that
is removed have names with a dash, and every rack has a status when resources change. -/
theorem checkNonAllowedChanges_faultless_iff (platform : Platform) (needUpdate : Bool)
    (cc : CassandraCluster) (status : CassandraClusterStatus) (answers : ChangeAnswers) :
    (checkNonAllowedChanges platform needUpdate cc status answers).fault = false ↔
      ∀ old, cc.annotation = .config old → cc.computeLastAppliedConfiguration ≠ old →
        PositionsKnown platform old.spec cc.spec ∧
          (SettingsAccepted platform needUpdate old.spec cc.spec →
            (RemovesDC cc old.spec → RemovedNamed cc) ∧
              (FlagsRacks cc old.spec answers → RacksListed cc.spec status)) := by
  cases annotation : cc.annotation with
  | absent => simp [checkNonAllowedChanges, annotation]
  | undecodable => simp [checkNonAllowedChanges, annotation]
  | config old =>
    simp only [ LastAppliedAnnotation.config.injEq, forall_eq']
    have known := @checkSettings_faultless_iff platform old.spec cc.spec needUpdate
    have editCase := checkNonAllowedChanges_case platform needUpdate cc status answers annotation
    generalize checkNonAllowedChanges platform needUpdate cc status answers = check at editCase ⊢
    cases editCase with
    | same same => exact iff_of_true rfl fun edited => absurd same edited
    | faulty edited faulty =>
      refine iff_of_false (by simp) fun right => ?_
      have sound := known.mpr (right edited).1
      rw [faulty] at sound
      cases sound
    | corrected edited sound corrects =>
      refine iff_of_true rfl fun _ => ⟨known.mp sound, fun untouched => ?_⟩
      exact absurd (Or.inl corrects) (settingsAccepted_iff.mp untouched)
    | accepted edited untouched =>
      rw [checkTopologyAndScaleDown_faultless_iff]
      exact ⟨fun both _ =>
          ⟨known.mp (Bool.eq_false_iff.mpr (not_or.mp untouched).2), fun _ => both⟩,
        fun right => (right edited).2 (settingsAccepted_iff.mpr untouched)⟩

/-! ## An added DC -/

/-- `dc2` is added, and pods get a memory request. -/
def addedWithResources : CassandraClusterSpec :=
  { oneRackSpec "cassandra:4" 2 with
    resources := { requests := some [("memory", { value := 1 })] }
    topology :=
      { dc := (oneRackSpec "cassandra:4" 2).topology.dc ++
          [{ name := "dc2", rack := [{ name := "rack1" }] }] } }

/-- Two passes have been made when `dc2` comes, whose rack has no status then. -/
theorem checkNonAllowedChanges_added_faults :
    let world := Runs.run (World.step seededPlatform) oneRackWorld
      (runningThen addedWithResources)
    (checkNonAllowedChanges seededPlatform false world.cluster world.cluster.status
      capacityAnswers).fault = true := by
  decide +kernel

end Casskop
