import Casskop.Library.Positions
import Casskop.Validation.ChangeFacts

/-!
# The loop over the settings of the DCs

The loop of `CheckNonAllowedChanges` refuses a smaller data capacity and another storage
class by putting back the global one together with the one of the DC at the same position.
It is two repairs by position, the second of which reads the capacities the first leaves.
-/

namespace Casskop

/-! ## Comparing capacities -/

/-- The first capacity is smaller in value. -/
def SmallerCapacity (platform : Platform) (capacity other : String) : Prop :=
  (platform.parseQuantity capacity).value < (platform.parseQuantity other).value

instance (platform : Platform) (capacity other : String) :
    Decidable (SmallerCapacity platform capacity other) :=
  inferInstanceAs (Decidable (_ < _))

/-- The spec gives the DC a smaller capacity than the old one. -/
def AsksForLess (platform : Platform) (oldSpec spec : CassandraClusterSpec) (dcName : String) :
    Prop :=
  SmallerCapacity platform (spec.getDataCapacityFromDCName dcName)
    (oldSpec.getDataCapacityFromDCName dcName)

instance (platform : Platform) (oldSpec spec : CassandraClusterSpec) (dcName : String) :
    Decidable (AsksForLess platform oldSpec spec dcName) :=
  inferInstanceAs (Decidable (SmallerCapacity _ _ _))

theorem analyzeDataCapacityChange_downsize_iff (platform : Platform)
    (oldCapacity newCapacity : String) :
    analyzeDataCapacityChange platform oldCapacity newCapacity = .downsize ↔
      SmallerCapacity platform newCapacity oldCapacity := by
  unfold analyzeDataCapacityChange SmallerCapacity
  dsimp only
  split
  · rename_i same
    simp [same]
  split
  · rename_i equal
    simp [equal]
  split
  · rename_i larger
    simp [le_of_lt larger]
  · rename_i different notLarger
    simp only [true_iff]
    exact lt_of_le_of_ne (not_lt.mp notLarger) different

/-! ## Positions -/

variable {spec : CassandraClusterSpec} {position : Nat} {dcName : String}

namespace CassandraClusterSpec

def dcNames (spec : CassandraClusterSpec) : List String := spec.topology.dc.map DC.name

def dcCapacities (spec : CassandraClusterSpec) : List String :=
  spec.topology.dc.map DC.dataCapacity

/-- The DC of this name the lookups find. -/
def FirstAt (spec : CassandraClusterSpec) (position : Nat) (dcName : String) : Prop :=
  spec.dcNames[position]? = some dcName ∧
    ∀ earlier < position, spec.dcNames[earlier]? ≠ some dcName

theorem getDCSize_eq (spec : CassandraClusterSpec) : spec.getDCSize = spec.dcNames.length := by
  simp [getDCSize, dcNames]

variable {other : CassandraClusterSpec}

theorem FirstAt.congr (names : other.dcNames = spec.dcNames)
    (first : spec.FirstAt position dcName) :
    other.FirstAt position dcName := by
  unfold FirstAt
  rw [names]
  exact first

theorem exists_firstAt (member : dcName ∈ spec.dcNames) :
    ∃ position, spec.FirstAt position dcName := by
  have present : ∃ position, spec.dcNames[position]? = some dcName :=
    List.mem_iff_getElem?.mp member
  exact ⟨Nat.find present, Nat.find_spec present, fun earlier before => Nat.find_min present before⟩

theorem FirstAt.idxOf (first : spec.FirstAt position dcName) :
    spec.dcNames.idxOf dcName = position := by
  refine le_antisymm (Positions.idxOf_le first.1) (Nat.le_of_not_lt fun before => ?_)
  exact first.2 _ before (List.getElem?_idxOf (List.mem_of_getElem? first.1))

theorem FirstAt.capacity (first : spec.FirstAt position dcName) {capacity : String}
    (own : spec.dcCapacities[position]? = some capacity) :
    spec.getDataCapacityFromDCName dcName =
      if capacity ≠ "" then capacity else spec.dataCapacity := by
  obtain ⟨named, earlier⟩ := first
  unfold dcNames at named earlier
  unfold dcCapacities at own
  rw [List.getElem?_map] at named own
  obtain ⟨dc, found, rfl⟩ := Option.map_eq_some_iff.mp own
  rw [found, Option.map_some, Option.some.injEq] at named
  obtain ⟨bound, here⟩ := List.getElem?_eq_some_iff.mp found
  have lookup : spec.topology.dc.find? (fun dc => dc.name == dcName) = some dc := by
    refine List.find?_eq_some_iff_getElem.mpr ⟨by simp [named], position, bound, here, ?_⟩
    intro before smaller
    have different := earlier before smaller
    rw [List.getElem?_map, List.getElem?_eq_getElem (lt_trans smaller bound), Option.map_some]
      at different
    simpa using different
  unfold getDataCapacityFromDCName
  rw [lookup]

theorem FirstAt.exists_capacity (first : spec.FirstAt position dcName) :
    ∃ capacity, spec.dcCapacities[position]? = some capacity := by
  have named := first.1
  unfold dcNames at named
  rw [List.getElem?_map] at named
  obtain ⟨dc, found, _⟩ := Option.map_eq_some_iff.mp named
  exact ⟨dc.dataCapacity, by simp [dcCapacities, found]⟩

theorem getDCName_of_getElem? (named : spec.dcNames[position]? = some dcName) :
    spec.getDCName position = dcName := by
  unfold dcNames at named
  rw [List.getElem?_map] at named
  obtain ⟨dc, found, rfl⟩ := Option.map_eq_some_iff.mp named
  simp [getDCName, found]

theorem getDCName_congr (names : other.dcNames = spec.dcNames) (position : Nat) :
    other.getDCName position = spec.getDCName position := by
  have read : ∀ some : CassandraClusterSpec,
      some.getDCName position = (some.dcNames[position]?).getD defaultCassandraDC := by
    intro some
    unfold getDCName dcNames
    rw [List.getElem?_map]
    cases some.topology.dc[position]? <;> rfl
  rw [read, read, names]

/-- Capacities are read from the names, the capacities of the DCs and the global one. -/
theorem getDataCapacityFromDCName_congr (names : other.dcNames = spec.dcNames)
    (capacities : other.dcCapacities = spec.dcCapacities)
    (global : other.dataCapacity = spec.dataCapacity) (dcName : String) :
    other.getDataCapacityFromDCName dcName = spec.getDataCapacityFromDCName dcName := by
  by_cases member : dcName ∈ spec.dcNames
  · obtain ⟨position, first⟩ := exists_firstAt member
    obtain ⟨capacity, own⟩ := first.exists_capacity
    rw [first.capacity own, (first.congr names).capacity (capacities ▸ own), global]
  · have missing : ∀ some : CassandraClusterSpec, dcName ∉ some.dcNames →
        some.getDataCapacityFromDCName dcName = some.dataCapacity := by
      intro some absent
      unfold getDataCapacityFromDCName
      have notFound : some.topology.dc.find? (fun dc => dc.name == dcName) = none := by
        refine List.find?_eq_none.mpr fun dc found same => absent ?_
        exact List.mem_map.mpr ⟨dc, found, beq_iff_eq.mp same⟩
      rw [notFound]
    rw [missing spec member, missing other (names ▸ member), global]

end CassandraClusterSpec

/-! ## Values by position -/

theorem find?_dc_eq (dcs : List DC) (dcName : String) :
    dcs.find? (fun dc => dc.name == dcName) = dcs[(dcs.map DC.name).idxOf dcName]? := by
  induction dcs with
  | nil => rfl
  | cons dc dcs induction =>
    rw [List.find?_cons, List.map_cons, List.idxOf_cons]
    cases same : dc.name == dcName with
    | true => simp
    | false => simpa using induction

namespace CassandraClusterSpec

def dcClasses (spec : CassandraClusterSpec) : List String :=
  spec.topology.dc.map DC.dataStorageClass

def capacities (spec : CassandraClusterSpec) : Positions.Setting String :=
  { own := spec.dcCapacities, shared := spec.dataCapacity }

def classes (spec : CassandraClusterSpec) : Positions.Setting String :=
  { own := spec.dcClasses, shared := spec.dataStorageClass }

theorem length_dcCapacities (spec : CassandraClusterSpec) :
    spec.dcCapacities.length = spec.dcNames.length := by
  simp [dcCapacities, dcNames]

theorem length_dcClasses (spec : CassandraClusterSpec) :
    spec.dcClasses.length = spec.dcNames.length := by
  simp [dcClasses, dcNames]

end CassandraClusterSpec

section Repairs

variable (platform : Platform) (oldSpec requested : CassandraClusterSpec)

/-- The loop as far as capacities go. -/
def capacityRepair : Positions.Repair String String :=
  { names := requested.dcNames
    old := oldSpec.capacities
    pick := fun _ own shared => if own ≠ "" then own else shared
    bad := fun dcName capacity =>
      decide (SmallerCapacity platform capacity (oldSpec.getDataCapacityFromDCName dcName)) }

/-- The capacity a DC has of its own after the iteration for its position. -/
def settledCapacity (position : Nat) : String :=
  (((capacityRepair platform oldSpec requested).reached requested.capacities
    (position + 1)).own[position]?).getD ""

/-- The loop as far as storage classes go. -/
def classRepair : Positions.Repair String String :=
  { names := requested.dcNames
    old := oldSpec.classes
    pick := fun position own shared =>
      if settledCapacity platform oldSpec requested position ≠ "" then own else shared
    bad := fun dcName storageClass =>
      storageClass != oldSpec.getDataStorageClassFromDCName dcName }

end Repairs

section Values

variable {platform : Platform} {oldSpec requested : CassandraClusterSpec}

theorem getElem?_idxOf_dcNames (member : dcName ∈ spec.dcNames) :
    ∃ dc, spec.topology.dc.find? (fun dc => dc.name == dcName) = some dc ∧
      spec.topology.dc[spec.dcNames.idxOf dcName]? = some dc := by
  have inside := List.idxOf_lt_length_of_mem member
  have length : spec.dcNames.length = spec.topology.dc.length := List.length_map _
  refine ⟨_, ?_, List.getElem?_eq_getElem (length ▸ inside)⟩
  rw [find?_dc_eq]
  exact List.getElem?_eq_getElem (length ▸ inside)

variable (names : spec.dcNames = requested.dcNames)

include names

theorem getElem?_dcNames (inside : position < requested.dcNames.length) :
    requested.dcNames[position]? = some (spec.getDCName position) := by
  rw [← names] at inside ⊢
  have here := List.getElem?_eq_getElem inside
  rw [here, CassandraClusterSpec.getDCName_of_getElem? here]

theorem capacityRepair_value (member : dcName ∈ requested.dcNames) :
    (capacityRepair platform oldSpec requested).value spec.capacities dcName =
      some (spec.getDataCapacityFromDCName dcName) := by
  obtain ⟨dc, found, here⟩ := getElem?_idxOf_dcNames (names ▸ member)
  unfold CassandraClusterSpec.getDataCapacityFromDCName
  rw [found]
  simp [Positions.Repair.value, capacityRepair, ← names, CassandraClusterSpec.capacities,
    CassandraClusterSpec.dcCapacities, here]

theorem capacityRepair_fires_iff (inside : position < requested.dcNames.length) :
    (capacityRepair platform oldSpec requested).fires spec.capacities position = true ↔
      AsksForLess platform oldSpec spec (spec.getDCName position) := by
  have named := getElem?_dcNames names inside
  unfold Positions.Repair.fires
  rw [show (capacityRepair platform oldSpec requested).names = requested.dcNames from rfl, named,
    Option.any_some, capacityRepair_value names (List.mem_of_getElem? named), Option.any_some]
  exact decide_eq_true_iff

theorem classRepair_value (member : dcName ∈ requested.dcNames)
    (settled : (spec.dcCapacities[requested.dcNames.idxOf dcName]?).getD "" = settledCapacity
      platform oldSpec requested (requested.dcNames.idxOf dcName)) :
    (classRepair platform oldSpec requested).value spec.classes dcName =
      some (spec.getDataStorageClassFromDCName dcName) := by
  obtain ⟨dc, found, here⟩ := getElem?_idxOf_dcNames (names ▸ member)
  have capacity : dc.dataCapacity =
      settledCapacity platform oldSpec requested (requested.dcNames.idxOf dcName) := by
    rw [← settled, ← names]
    simp [CassandraClusterSpec.dcCapacities, here]
  unfold CassandraClusterSpec.getDataStorageClassFromDCName
  rw [found]
  simp only [Positions.Repair.value, classRepair, ← names, CassandraClusterSpec.classes,
    CassandraClusterSpec.dcClasses, List.getElem?_map, here, Option.map_some]
  rw [names, ← capacity]

theorem classRepair_fires_iff (inside : position < requested.dcNames.length)
    (settled : ∀ dcName ∈ requested.dcNames, requested.dcNames.idxOf dcName ≤ position →
      (spec.dcCapacities[requested.dcNames.idxOf dcName]?).getD "" = settledCapacity platform
      oldSpec requested (requested.dcNames.idxOf dcName)) :
    (classRepair platform oldSpec requested).fires spec.classes position = true ↔
      spec.getDataStorageClassFromDCName (spec.getDCName position) ≠
        oldSpec.getDataStorageClassFromDCName (spec.getDCName position) := by
  have named := getElem?_dcNames names inside
  have member := List.mem_of_getElem? named
  unfold Positions.Repair.fires
  rw [show (classRepair platform oldSpec requested).names = requested.dcNames from rfl, named,
    Option.any_some, classRepair_value names member (settled _ member (Positions.idxOf_le named)),
    Option.any_some]
  exact bne_iff_ne

end Values

/-! ## The iterations -/

variable {check : SettingsCheck} {dc : Nat}

section Iterations

variable {platform : Platform} {oldSpec requested : CassandraClusterSpec}

theorem restoreDataCapacity_eq (oldSpec : CassandraClusterSpec) (check : SettingsCheck) (dc : Nat) :
    let restored := restoreDataCapacity oldSpec dc check
    (oldSpec.dcCapacities[dc]? = none ∧ restored.fault = true ∧
        restored.spec = { check.spec with dataCapacity := oldSpec.dataCapacity }) ∨
      ∃ capacity, oldSpec.dcCapacities[dc]? = some capacity ∧ restored.fault = false ∧
        restored.spec.dcNames = check.spec.dcNames ∧
        restored.spec.classes = check.spec.classes ∧
        restored.spec.capacities =
          { own := check.spec.dcCapacities.set dc capacity, shared := oldSpec.dataCapacity } := by
  unfold restoreDataCapacity SettingsCheck.restore CassandraClusterSpec.dcCapacities
  rw [List.getElem?_map]
  dsimp only
  cases found : oldSpec.topology.dc[dc]? with
  | none => exact Or.inl ⟨rfl, rfl, rfl⟩
  | some oldDC =>
    refine Or.inr ⟨oldDC.dataCapacity, rfl, rfl, ?_, ?_, ?_⟩
    · exact Positions.map_modify_same _ _ _ _ fun _ => rfl
    · exact congrArg (Positions.Setting.mk · _)
        (Positions.map_modify_same _ _ _ _ fun _ => rfl)
    · exact congrArg (Positions.Setting.mk · _)
        (Positions.map_modify_set _ _ _ _ fun _ => rfl)

theorem restoreDataStorageClass_eq (oldSpec : CassandraClusterSpec) (check : SettingsCheck)
    (dc : Nat) :
    let restored := restoreDataStorageClass oldSpec dc check
    (oldSpec.dcClasses[dc]? = none ∧ restored.fault = true ∧
        restored.spec = { check.spec with dataStorageClass := oldSpec.dataStorageClass }) ∨
      ∃ storageClass, oldSpec.dcClasses[dc]? = some storageClass ∧ restored.fault = false ∧
        restored.spec.dcNames = check.spec.dcNames ∧
        restored.spec.capacities = check.spec.capacities ∧
        restored.spec.classes =
          { own := check.spec.dcClasses.set dc storageClass
            shared := oldSpec.dataStorageClass } := by
  unfold restoreDataStorageClass SettingsCheck.restore CassandraClusterSpec.dcClasses
  rw [List.getElem?_map]
  dsimp only
  cases found : oldSpec.topology.dc[dc]? with
  | none => exact Or.inl ⟨rfl, rfl, rfl⟩
  | some oldDC =>
    refine Or.inr ⟨oldDC.dataStorageClass, rfl, rfl, ?_, ?_, ?_⟩
    · exact Positions.map_modify_same _ _ _ _ fun _ => rfl
    · exact congrArg (Positions.Setting.mk · _)
        (Positions.map_modify_same _ _ _ _ fun _ => rfl)
    · exact congrArg (Positions.Setting.mk · _)
        (Positions.map_modify_set _ _ _ _ fun _ => rfl)

/-- The spec is where the two repairs are after so many iterations. -/
structure SettingsAt (platform : Platform) (oldSpec requested : CassandraClusterSpec)
    (count : Nat) (spec : CassandraClusterSpec) : Prop where
  names : spec.dcNames = requested.dcNames
  capacities : (capacityRepair platform oldSpec requested).run requested.capacities count =
    some spec.capacities
  classes : (classRepair platform oldSpec requested).run requested.classes count =
    some spec.classes

/-- One of the two repairs has come to a position without old DC. -/
def RepairStuck (platform : Platform) (oldSpec requested : CassandraClusterSpec) (count : Nat) :
    Prop :=
  (capacityRepair platform oldSpec requested).run requested.capacities count = none ∨
    (classRepair platform oldSpec requested).run requested.classes count = none

/-- What the loop makes of the settings in the first iterations. -/
def LoopAt (platform : Platform) (oldSpec requested : CassandraClusterSpec) (count : Nat)
    (check : SettingsCheck) : Prop :=
  (check.fault = false ∧ SettingsAt platform oldSpec requested count check.spec) ∨
    (check.fault = true ∧ RepairStuck platform oldSpec requested count)

theorem RepairStuck.succ {count : Nat} (stuck : RepairStuck platform oldSpec requested count) :
    RepairStuck platform oldSpec requested (count + 1) := by
  rcases stuck with capacities | classes
  · left
    rw [Positions.Repair.run_succ, capacities]
    rfl
  · right
    rw [Positions.Repair.run_succ, classes]
    rfl

theorem settledCapacity_of_run {count : Nat}
    (ran : (capacityRepair platform oldSpec requested).run requested.capacities count = some
      spec.capacities) (member : dcName ∈ requested.dcNames)
    (before : requested.dcNames.idxOf dcName < count) :
    (spec.dcCapacities[requested.dcNames.idxOf dcName]?).getD "" =
      settledCapacity platform oldSpec requested (requested.dcNames.idxOf dcName) := by
  have own := (Positions.Repair.run_progress count ran).agrees.own dcName member
  have same : spec.dcCapacities[requested.dcNames.idxOf dcName]? = _ := own
  unfold settledCapacity
  rw [same, Positions.Repair.getElem?_reached, Positions.Repair.getElem?_reached]
  have here : (capacityRepair platform oldSpec requested).names.idxOf dcName =
    requested.dcNames.idxOf dcName := rfl
  simp only [here, before, Nat.lt_succ_self, true_and]

theorem checkDataCapacity_run (inside : dc < requested.dcNames.length) (sound : check.fault = false)
    (settings : SettingsAt platform oldSpec requested dc check.spec) :
    let checked := checkDataCapacity platform oldSpec dc (check.spec.getDCName dc) check
    (checked.fault = true ∧
        (capacityRepair platform oldSpec requested).run requested.capacities (dc + 1) = none ∧
        (capacityRepair platform oldSpec requested).fires check.spec.capacities dc = true ∧
        oldSpec.dcCapacities[dc]? = none ∧
        checked.spec = { check.spec with dataCapacity := oldSpec.dataCapacity }) ∨
      (checked.fault = false ∧ checked.spec.dcNames = requested.dcNames ∧
        checked.spec.classes = check.spec.classes ∧
        (capacityRepair platform oldSpec requested).run requested.capacities (dc + 1) =
          some checked.spec.capacities) := by
  have fires : (capacityRepair platform oldSpec requested).fires check.spec.capacities dc =
      true ↔ AsksForLess platform oldSpec check.spec (check.spec.getDCName dc) :=
    capacityRepair_fires_iff settings.names inside
  dsimp only
  rw [Positions.Repair.run_succ, settings.capacities, Option.bind_some, Positions.Repair.step]
  unfold checkDataCapacity
  split
  · rename_i downsize
    have less := (analyzeDataCapacityChange_downsize_iff _ _ _).mp downsize
    rw [if_pos (fires.mpr less)]
    rcases restoreDataCapacity_eq oldSpec check dc with
      ⟨missing, faulty, left⟩ | ⟨capacity, found, sound', names, classes, capacities⟩
    · have absent : (capacityRepair platform oldSpec requested).old.own[dc]? = none := missing
      exact Or.inl ⟨faulty, by rw [absent]; rfl, fires.mpr less, missing, left⟩
    · have present : (capacityRepair platform oldSpec requested).old.own[dc]? =
        some capacity := found
      refine Or.inr ⟨sound', names.trans settings.names, classes, ?_⟩
      rw [present, capacities]
      rfl
  · rename_i enough
    have notLess : ¬ AsksForLess platform oldSpec check.spec (check.spec.getDCName dc) :=
      fun less => enough ((analyzeDataCapacityChange_downsize_iff _ _ _).mpr less)
    rw [if_neg fun fired => notLess (fires.mp fired)]
    exact Or.inr ⟨sound, settings.names, rfl, rfl⟩

theorem checkDataStorageClass_run {checked : SettingsCheck} (inside : dc < requested.dcNames.length)
    (sound : checked.fault = false) (names : checked.spec.dcNames = requested.dcNames)
    (capacities : (capacityRepair platform oldSpec requested).run requested.capacities (dc + 1) =
      some checked.spec.capacities)
    (classes : (classRepair platform oldSpec requested).run requested.classes dc = some
      checked.spec.classes) (named : check.spec.getDCName dc = checked.spec.getDCName dc) :
    LoopAt platform oldSpec requested (dc + 1)
      (checkDataStorageClass oldSpec dc (check.spec.getDCName dc) checked) := by
  have fires : (classRepair platform oldSpec requested).fires checked.spec.classes dc = true ↔ _ :=
    classRepair_fires_iff names inside fun dcName member before =>
      settledCapacity_of_run capacities member (Nat.lt_succ_of_le before)
  have next : (classRepair platform oldSpec requested).run requested.classes (dc + 1) =
      (classRepair platform oldSpec requested).step checked.spec.classes dc := by
    rw [Positions.Repair.run_succ, classes, Option.bind_some]
  unfold Positions.Repair.step at next
  unfold checkDataStorageClass
  rw [named]
  split
  · rename_i differs
    rw [if_pos (fires.mpr differs)] at next
    rcases restoreDataStorageClass_eq oldSpec checked dc with
      ⟨missing, faulty, _⟩ | ⟨storageClass, found, sound', names', capacities', classes'⟩
    · have absent : (classRepair platform oldSpec requested).old.own[dc]? = none := missing
      rw [absent] at next
      exact Or.inr ⟨faulty, Or.inr next⟩
    · have present : (classRepair platform oldSpec requested).old.own[dc]? =
        some storageClass := found
      rw [present] at next
      refine Or.inl ⟨sound', names'.trans names, ?_, ?_⟩
      · rw [capacities']
        exact capacities
      · rw [classes']
        exact next
  · rename_i same
    rw [if_neg fun fired => same (fires.mp fired)] at next
    exact Or.inl ⟨sound, names, capacities, next⟩

theorem LoopAt.succ (loop : LoopAt platform oldSpec requested dc check)
    (inside : dc < requested.dcNames.length) :
    LoopAt platform oldSpec requested (dc + 1) (checkDCSettings platform oldSpec check dc) := by
  unfold checkDCSettings
  rcases loop with ⟨sound, settings⟩ | ⟨faulty, stuck⟩
  · rw [if_neg (by simp [sound])]
    dsimp only
    rcases checkDataCapacity_run inside sound settings with
      ⟨faulty, stuck, _⟩ | ⟨sound', names, classes, capacities⟩
    · rw [if_pos faulty]
      exact Or.inr ⟨faulty, Or.inl stuck⟩
    · rw [if_neg (by simp [sound'])]
      refine checkDataStorageClass_run inside sound' names capacities ?_ ?_
      · rw [classes]
        exact settings.classes
      · exact CassandraClusterSpec.getDCName_congr (settings.names.trans names.symm) dc
  · rw [if_pos faulty]
    exact Or.inr ⟨faulty, stuck.succ⟩

/-- What holds in front of the loop and is kept by every iteration holds behind it. -/
theorem checkSettings_invariant {needUpdate : Bool} (invariant : Nat → SettingsCheck → Prop)
    (start : invariant 0
      (checkNodesPerRacks oldSpec { spec := requested, needUpdate := needUpdate }))
    (step : ∀ dc < requested.dcNames.length, ∀ check, invariant dc check →
      invariant (dc + 1) (checkDCSettings platform oldSpec check dc)) :
    invariant requested.dcNames.length
      (checkSettings platform needUpdate requested oldSpec) := by
  have iterations : ∀ count ≤ requested.dcNames.length,
      invariant count ((List.range count).foldl (checkDCSettings platform oldSpec)
        (checkNodesPerRacks oldSpec { spec := requested, needUpdate := needUpdate })) := by
    intro count
    induction count with
    | zero => exact fun _ => start
    | succ count induction =>
      intro bound
      rw [List.range_succ, List.foldl_append, List.foldl_cons, List.foldl_nil]
      exact step count bound _ (induction (Nat.le_of_succ_le bound))
  unfold checkSettings
  rw [CassandraClusterSpec.getDCSize_eq]
  exact iterations _ le_rfl

theorem checkSettings_loopAt (needUpdate : Bool) :
    LoopAt platform oldSpec requested requested.dcNames.length
      (checkSettings platform needUpdate requested oldSpec) := by
  refine checkSettings_invariant (LoopAt platform oldSpec requested) ?_
    fun _ inside _ loop => loop.succ inside
  unfold checkNodesPerRacks
  split
  · exact Or.inl ⟨rfl, rfl, rfl, rfl⟩
  · exact Or.inl ⟨rfl, rfl, rfl, rfl⟩

theorem checkSettings_settingsAt {needUpdate : Bool}
    (sound : (checkSettings platform needUpdate requested oldSpec).fault = false) :
    SettingsAt platform oldSpec requested requested.dcNames.length
      (checkSettings platform needUpdate requested oldSpec).spec := by
  refine ((checkSettings_loopAt needUpdate).resolve_right ?_).2
  simp [sound]

end Iterations

end Casskop
