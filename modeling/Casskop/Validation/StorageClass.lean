import Casskop.Validation.Capacity

/-!
# Storage classes that are put back

The class a DC uses is looked up through its capacity: a DC with a capacity of its own has a
class of its own, even an empty one.  `CheckNonAllowedChanges` puts back the class of the
position and the global one, so whether a DC keeps its class depends on where it stands and
on where its capacity comes from.
-/

namespace Casskop

/-! ## The class of a DC -/

/-- The class the DC declares, or the global one. -/
def CassandraClusterSpec.declaredClass (spec : CassandraClusterSpec) (dcName : String) : String :=
  match spec.topology.dc.find? (fun dc => dc.name == dcName) with
  | some dc => if dc.dataStorageClass ≠ "" then dc.dataStorageClass else spec.dataStorageClass
  | none => spec.dataStorageClass

/-- Every DC uses the class it declares. -/
def ClassesDeclared (spec : CassandraClusterSpec) : Prop :=
  ∀ dcName, spec.getDataStorageClassFromDCName dcName = spec.declaredClass dcName

/-- Class and capacity of the DC come from the same place, or the places have one class. -/
structure DC.ClassFollowsCapacity (dc : DC) (globalClass : String) : Prop where
  own : dc.dataCapacity ≠ "" → dc.dataStorageClass = "" → globalClass = ""
  global : dc.dataCapacity = "" → dc.dataStorageClass ≠ "" → dc.dataStorageClass = globalClass

theorem classesDeclared_iff (spec : CassandraClusterSpec) :
    ClassesDeclared spec ↔
      ∀ dcName dc, spec.topology.dc.find? (fun dc => dc.name == dcName) = some dc →
        dc.ClassFollowsCapacity spec.dataStorageClass := by
  refine forall_congr' fun dcName => ?_
  unfold CassandraClusterSpec.getDataStorageClassFromDCName CassandraClusterSpec.declaredClass
  cases found : spec.topology.dc.find? (fun dc => dc.name == dcName) with
  | none => simp
  | some dc =>
    simp only [Option.some.injEq, forall_eq']
    by_cases capacity : dc.dataCapacity = ""
    · by_cases storageClass : dc.dataStorageClass = ""
      · simp only [capacity, storageClass, ne_eq, not_true_eq_false, if_false, true_iff]
        exact ⟨fun set => absurd capacity set, fun _ set => absurd storageClass set⟩
      · simp only [capacity, storageClass, ne_eq, not_true_eq_false, not_false_eq_true, if_true,
          if_false]
        exact ⟨fun same => ⟨fun set => absurd capacity set, fun _ _ => same.symm⟩,
          fun follows => (follows.global capacity storageClass).symm⟩
    · by_cases storageClass : dc.dataStorageClass = ""
      · simp only [capacity, storageClass, ne_eq, not_true_eq_false, not_false_eq_true, if_true,
          if_false]
        exact ⟨fun same => ⟨fun _ _ => same.symm, fun none => absurd none capacity⟩,
          fun follows => (follows.own capacity storageClass).symm⟩
      · simp only [capacity, storageClass, ne_eq, not_false_eq_true, if_true, true_iff]
        exact ⟨fun _ none => absurd none storageClass, fun none => absurd none capacity⟩

/-! ## The classes the loop leaves -/

/-- Every DC of both specs has the class it had. -/
def ClassesKept (oldSpec requested final : CassandraClusterSpec) : Prop :=
  ∀ dcName ∈ requested.dcNames, dcName ∈ oldSpec.dcNames →
    final.getDataStorageClassFromDCName dcName = oldSpec.getDataStorageClassFromDCName dcName

/-- What the corrections need to be right about the DC at a position: the class of the
position, or the global one, is its class if the class is put back; otherwise its class does
not come from a global one that is put back later. -/
structure ClassKeptAt (platform : Platform) (oldSpec requested : CassandraClusterSpec)
    (position : Nat) (dcName : String) : Prop where
  putBack : (classRepair platform oldSpec requested).repairs requested.classes position = true →
    (if settledCapacity platform oldSpec requested position ≠ "" then
        (oldSpec.dcClasses[position]?).getD ""
      else oldSpec.dataStorageClass) = oldSpec.getDataStorageClassFromDCName dcName
  kept : (classRepair platform oldSpec requested).repairs requested.classes position = false →
    (classRepair platform oldSpec requested).firedBefore requested.classes position = false →
    settledCapacity platform oldSpec requested position = "" →
    requested.dataStorageClass = oldSpec.dataStorageClass

variable {dcName : String} {position : Nat}

section Loop

variable {platform : Platform} {oldSpec requested final : CassandraClusterSpec}

theorem settledCapacity_of_none
    (none : ¬ LessBefore platform oldSpec requested requested.dcNames.length)
    (member : dcName ∈ requested.dcNames) :
    (requested.dcCapacities[requested.dcNames.idxOf dcName]?).getD "" =
      settledCapacity platform oldSpec requested (requested.dcNames.idxOf dcName) := by
  rw [lessBefore_iff_firedBefore le_rfl, Bool.not_eq_true] at none
  have kept := Positions.Repair.repairs_of_unfired none (List.idxOf_lt_length_of_mem member)
  unfold settledCapacity
  rw [Positions.Repair.getElem?_reached, kept, if_neg (by simp)]
  rfl

theorem classRepair_unfired
    (none : ¬ LessBefore platform oldSpec requested requested.dcNames.length)
    (same : ∀ dc < requested.getDCSize, SameStorageClass oldSpec requested dc) :
    (classRepair platform oldSpec requested).firedBefore requested.classes
      requested.dcNames.length = false := by
  rw [← Bool.not_eq_true, Positions.Repair.firedBefore_eq_true_iff]
  rintro ⟨earlier, inside, fires⟩
  rw [classRepair_fires_iff rfl inside fun dcName member _ => settledCapacity_of_none none member]
    at fires
  exact fires (same earlier (requested.getDCSize_eq ▸ inside))

section Result

variable (settings : SettingsAt platform oldSpec requested requested.dcNames.length final)

include settings

theorem SettingsAt.class_eq (member : dcName ∈ requested.dcNames) :
    (classRepair platform oldSpec requested).value final.classes dcName =
      some (final.getDataStorageClassFromDCName dcName) :=
  classRepair_value settings.names member
    (settledCapacity_of_run settings.capacities member (List.idxOf_lt_length_of_mem member))

/-- Where no class is bad to start with, every DC keeps its class. -/
theorem SettingsAt.classesKept_of_unfired
    (unfired : (classRepair platform oldSpec requested).firedBefore requested.classes
      requested.dcNames.length = false) :
    ClassesKept oldSpec requested final := by
  intro dcName member _
  have inside := List.idxOf_lt_length_of_mem member
  have named : final.getDCName (requested.dcNames.idxOf dcName) = dcName := by
    refine CassandraClusterSpec.getDCName_of_getElem? ?_
    rw [settings.names]
    exact List.getElem?_idxOf member
  have fires := classRepair_fires_iff settings.names inside fun other present _ =>
    settledCapacity_of_run settings.capacities present (List.idxOf_lt_length_of_mem present)
  rw [named, (Positions.Repair.run_progress _ settings.classes).untouched unfired] at fires
  by_contra differs
  have fired := Positions.Repair.firedBefore_eq_true_iff.mpr ⟨_, inside, fires.mpr differs⟩
  rw [unfired] at fired
  cases fired

theorem SettingsAt.class_of_fired
    (fired : (classRepair platform oldSpec requested).firedBefore requested.classes
      requested.dcNames.length = true) (first : requested.FirstAt position dcName) :
    final.getDataStorageClassFromDCName dcName =
      if settledCapacity platform oldSpec requested position ≠ "" then
        if (classRepair platform oldSpec requested).repairs requested.classes position then
          (oldSpec.dcClasses[position]?).getD ""
        else (requested.dcClasses[position]?).getD ""
      else oldSpec.dataStorageClass := by
  have member := List.mem_of_getElem? first.1
  have inside : position < requested.dcNames.length := (List.getElem?_eq_some_iff.mp first.1).1
  have here : (classRepair platform oldSpec requested).names.idxOf dcName = position := first.idxOf
  have shared : final.classes.shared = oldSpec.dataStorageClass := by
    rw [(Positions.Repair.run_progress _ settings.classes).agrees.shared]
    unfold Positions.Repair.reached Positions.Repair.comparedAt
    rw [if_pos fired]
    rfl
  have own := Positions.Repair.run_own settings.classes member
  have value := settings.class_eq member
  unfold Positions.Repair.value at value
  rw [here] at own value
  dsimp only at value
  rw [shared] at value
  obtain ⟨storageClass, found, picked⟩ := Option.map_eq_some_iff.mp value
  rw [found] at own
  rw [← picked]
  change (if settledCapacity platform oldSpec requested position ≠ "" then storageClass
    else oldSpec.dataStorageClass) = _
  by_cases repaired : (classRepair platform oldSpec requested).repairs requested.classes
      position = true
  · rw [if_pos ⟨inside, repaired⟩] at own
    have old : oldSpec.dcClasses[position]? = some storageClass := own.symm
    rw [if_pos repaired, old]
    rfl
  · rw [if_neg fun both => repaired both.2] at own
    have asked : requested.dcClasses[position]? = some storageClass := own.symm
    rw [if_neg repaired, asked]
    rfl

end Result

/-- A class that is not put back was the old one under the global class of that iteration. -/
theorem class_of_kept (first : requested.FirstAt position dcName)
    (kept : (classRepair platform oldSpec requested).repairs requested.classes position = false) :
    (if settledCapacity platform oldSpec requested position ≠ "" then
        (requested.dcClasses[position]?).getD ""
      else ((classRepair platform oldSpec requested).comparedAt requested.classes
        position).shared) = oldSpec.getDataStorageClassFromDCName dcName := by
  have here : (classRepair platform oldSpec requested).names.idxOf dcName = position := first.idxOf
  have named : (classRepair platform oldSpec requested).names[position]? = some dcName := first.1
  have inside : position < requested.topology.dc.length := by
    have bound := (List.getElem?_eq_some_iff.mp first.1).1
    unfold CassandraClusterSpec.dcNames at bound
    rwa [List.length_map] at bound
  have own : requested.dcClasses[position]? =
      some (requested.topology.dc[position]).dataStorageClass := by
    simp [CassandraClusterSpec.dcClasses, List.getElem?_eq_getElem inside]
  unfold Positions.Repair.repairs Positions.Repair.fires Positions.Repair.value at kept
  rw [named, Option.any_some, here, Positions.Repair.comparedAt_own] at kept
  change ((requested.dcClasses[position]?).map _).any _ = false at kept
  rw [own, Option.map_some, Option.any_some] at kept
  rw [own]
  exact bne_eq_false_iff_eq.mp kept

section Result

variable (settings : SettingsAt platform oldSpec requested requested.dcNames.length final)

include settings

variable (fired : (classRepair platform oldSpec requested).firedBefore requested.classes
  requested.dcNames.length = true)

include fired

theorem SettingsAt.classKeptAt_iff (first : requested.FirstAt position dcName) :
    final.getDataStorageClassFromDCName dcName = oldSpec.getDataStorageClassFromDCName dcName ↔
      ClassKeptAt platform oldSpec requested position dcName := by
  rw [settings.class_of_fired fired first]
  cases repaired : (classRepair platform oldSpec requested).repairs requested.classes position with
  | true =>
    simp only [if_true]
    exact ⟨fun same => ⟨fun _ => same, fun kept => by simp [repaired] at kept⟩,
      fun keeps => keeps.putBack repaired⟩
  | false =>
    have compared := class_of_kept first repaired
    simp only [Bool.false_eq_true, if_false]
    by_cases settled : settledCapacity platform oldSpec requested position = ""
    · simp only [settled, ne_eq, not_true_eq_false, if_false] at compared ⊢
      cases earlier : (classRepair platform oldSpec requested).firedBefore requested.classes
          position with
      | true =>
        unfold Positions.Repair.comparedAt at compared
        rw [if_pos earlier] at compared
        exact iff_of_true compared
          ⟨fun put => by simp [repaired] at put, fun _ unfired => by simp [earlier] at unfired⟩
      | false =>
        rw [Positions.Repair.comparedAt_of_unfired earlier] at compared
        have asked : requested.dataStorageClass =
          oldSpec.getDataStorageClassFromDCName dcName := compared
        rw [← asked]
        exact ⟨fun same => ⟨fun put => by simp [repaired] at put, fun _ _ _ => same.symm⟩,
          fun keeps => (keeps.kept repaired earlier settled).symm⟩
    · simp only [settled, ne_eq, not_false_eq_true, if_true] at compared ⊢
      exact iff_of_true compared
        ⟨fun put => by simp [repaired] at put, fun _ _ none => absurd none settled⟩

theorem SettingsAt.classesKept_iff :
    ClassesKept oldSpec requested final ↔
      ∀ position dcName, requested.FirstAt position dcName → dcName ∈ oldSpec.dcNames →
        ClassKeptAt platform oldSpec requested position dcName := by
  constructor
  · intro kept position dcName first known
    exact (settings.classKeptAt_iff fired first).mp
      (kept dcName (List.mem_of_getElem? first.1) known)
  · intro keptAt dcName member known
    obtain ⟨position, first⟩ := CassandraClusterSpec.exists_firstAt member
    exact (settings.classKeptAt_iff fired first).mpr (keptAt position dcName first known)

end Result

end Loop

/-! ## The whole check -/

/-- The classes are as declared when each DC takes its class from where it takes its capacity,
and kept when what is put back is right about every DC. -/
theorem checkNonAllowedChanges_classes_iff (platform : Platform) (needUpdate : Bool)
    (cc : CassandraCluster) (status : CassandraClusterStatus) (answers : ChangeAnswers)
    (old : LastApplied) (applied : cc.annotation = .config old)
    (returned : (checkNonAllowedChanges platform needUpdate cc status answers).fault = false) :
    ClassesDeclared old.spec ∧ ClassesDeclared cc.spec ∧
        ClassesKept old.spec cc.spec
          (checkNonAllowedChanges platform needUpdate cc status answers).spec ↔
      (∀ dcName dc, old.spec.topology.dc.find? (fun dc => dc.name == dcName) = some dc →
        dc.ClassFollowsCapacity old.spec.dataStorageClass) ∧
      (∀ dcName dc, cc.spec.topology.dc.find? (fun dc => dc.name == dcName) = some dc →
        dc.ClassFollowsCapacity cc.spec.dataStorageClass) ∧
      ((classRepair platform old.spec cc.spec).firedBefore cc.spec.classes
          cc.spec.dcNames.length = true →
        ∀ position dcName, cc.spec.FirstAt position dcName → dcName ∈ old.spec.dcNames →
          ClassKeptAt platform old.spec cc.spec position dcName) ∧
      (¬ LessBefore platform old.spec cc.spec cc.spec.dcNames.length →
        TopologyPutBack needUpdate cc old.spec status answers →
        ClassesKept old.spec cc.spec { cc.spec with topology := old.spec.topology }) := by
  refine and_congr (classesDeclared_iff _) (and_congr (classesDeclared_iff _) ?_)
  refine checkNonAllowedChanges_law_iff applied returned (fun spec => ?_) (fun sound => ?_)
    fun untouched => ?_
  · rw [spec]
    have none : ¬ LessBefore platform old.spec old.spec old.spec.dcNames.length := by
      rintro ⟨_, _, less⟩
      exact lt_irrefl _ less
    exact ⟨fun _ _ _ => rfl, Bool.eq_false_iff.mp (classRepair_unfired none fun _ _ => rfl)⟩
  · have settings := checkSettings_settingsAt sound
    cases fired : (classRepair platform old.spec cc.spec).firedBefore cc.spec.classes
        cc.spec.dcNames.length with
    | true =>
      rw [settings.classesKept_iff fired]
      exact ⟨fun all _ => all, fun all => all rfl⟩
    | false =>
      exact iff_of_true (settings.classesKept_of_unfired fired)
        fun impossible => absurd impossible Bool.false_ne_true
  · obtain ⟨_, _, each⟩ := (checkSettings_untouched_iff needUpdate cc.spec).mp untouched
    exact Bool.eq_false_iff.mp (classRepair_unfired (not_lessBefore_of_untouched untouched)
      fun dc inside => (each dc inside).2)

/-! ## Two DCs -/

/-- `dc1` and `dc2` with capacities and classes of their own. -/
def classOld : LastApplied :=
  { metadata := { name := "demo", ns := "ns" }
    spec :=
      { nodesPerRacks := 1
        dataStorageClass := "standard"
        topology :=
          { dc := [
              { name := "dc1", dataCapacity := "10Gi", dataStorageClass := "ssd" },
              { name := "dc2", dataCapacity := "10Gi", dataStorageClass := "hdd" }] } } }

def classNew (dcs : List DC) : CassandraCluster :=
  { metadata := classOld.metadata
    spec := { classOld.spec with topology := { dc := dcs } }
    status := { phase := .running }
    annotation := .config classOld }

/-- `dc1` asks for another class and stands where `dc2` stood. -/
def swappedClass : CassandraCluster :=
  classNew [{ name := "dc2", dataCapacity := "10Gi", dataStorageClass := "hdd" },
    { name := "dc1", dataCapacity := "10Gi", dataStorageClass := "nvme" }]

def undeclaredClass : CassandraCluster :=
  classNew [{ name := "dc1", dataCapacity := "10Gi", dataStorageClass := "ssd" },
    { name := "dc2", dataCapacity := "10Gi" }]

def changedClass : CassandraCluster :=
  classNew [{ name := "dc1", dataCapacity := "10Gi", dataStorageClass := "nvme" },
    { name := "dc2", dataCapacity := "10Gi", dataStorageClass := "hdd" }]

theorem changedClass_kept :
    ClassesDeclared classOld.spec ∧ ClassesDeclared changedClass.spec ∧
      ClassesKept classOld.spec changedClass.spec
        (checkNonAllowedChanges capacityPlatform false changedClass changedClass.status
          capacityAnswers).spec := by
  have follows : ∀ (dcs : List DC) (globalClass : String),
      (∀ dc ∈ dcs, dc.dataCapacity ≠ "" ∧ dc.dataStorageClass ≠ "") → ∀ dcName dc,
        dcs.find? (fun dc => dc.name == dcName) = some dc →
          dc.ClassFollowsCapacity globalClass := by
    intro dcs globalClass own dcName dc found
    obtain ⟨capacity, storageClass⟩ := own dc (List.mem_of_find?_eq_some found)
    exact ⟨fun _ none => absurd none storageClass, fun none => absurd none capacity⟩
  refine (checkNonAllowedChanges_classes_iff _ _ _ _ _ classOld rfl (by decide +kernel)).mpr
    ⟨follows _ _ (by decide), follows _ _ (by decide), fun _ position dcName first _ => ?_,
      fun _ putBack => ?_⟩
  · have global : changedClass.spec.dataStorageClass = classOld.spec.dataStorageClass := rfl
    match position, first.1 with
    | 0, named =>
      cases named
      exact ⟨fun _ => by decide +kernel, fun _ _ _ => global⟩
    | 1, named =>
      cases named
      exact ⟨fun _ => by decide +kernel, fun _ _ _ => global⟩
  · have same : SameStorageClass classOld.spec changedClass.spec 0 := putBack.2.2.1 0 (by decide)
    have differs : ¬ SameStorageClass classOld.spec changedClass.spec 0 := by
      unfold SameStorageClass
      decide
    exact absurd same differs

/-- `dc1` gets the class of `dc2`, and a DC with a capacity and no class gets none. -/
theorem swappedClass_changes :
    (checkNonAllowedChanges capacityPlatform false swappedClass swappedClass.status
        capacityAnswers).fault = false ∧
      ¬ ClassesKept classOld.spec swappedClass.spec
        (checkNonAllowedChanges capacityPlatform false swappedClass swappedClass.status
          capacityAnswers).spec ∧
      ¬ ClassesDeclared undeclaredClass.spec := by
  refine ⟨by decide +kernel, fun kept => ?_, fun declared => ?_⟩
  · have same := kept "dc1" (by decide) (by decide)
    revert same
    decide +kernel
  · have same := declared "dc2"
    revert same
    decide

end Casskop
