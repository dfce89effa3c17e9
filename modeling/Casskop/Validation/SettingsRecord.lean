import Casskop.Validation.Faults

/-!
# What the check of the settings leaves

The settings that are put back stay in the object however the check ends.  Behind a position
the old topology does not have nothing is looked at any more, and the object is written as it
is then.
-/

namespace Casskop

/-! ## How far the loop gets -/

section Stop

variable (platform : Platform) (oldSpec requested : CassandraClusterSpec)

/-- A capacity is refused where the old topology has no DC. -/
def capacityMissing (position : Nat) : Bool :=
  (capacityRepair platform oldSpec requested).misses requested.capacities position

/-- A storage class is. -/
def classMissing (position : Nat) : Bool :=
  (classRepair platform oldSpec requested).misses requested.classes position

/-- The position that ends the loop, if one does. -/
def stopPosition : Option Nat :=
  (List.range requested.dcNames.length).find? fun position =>
    capacityMissing platform oldSpec requested position ||
      classMissing platform oldSpec requested position

/-- The number of DCs whose capacity is looked at. -/
def checkedCapacities : Nat :=
  match stopPosition platform oldSpec requested with
  | none => requested.dcNames.length
  | some position => position + 1

/-- The number of DCs whose storage class is looked at. -/
def checkedClasses : Nat :=
  match stopPosition platform oldSpec requested with
  | none => requested.dcNames.length
  | some position =>
    if capacityMissing platform oldSpec requested position then position else position + 1

end Stop

variable {position dc : Nat} {dcName : String}

section Ends

variable {platform : Platform} {oldSpec requested spec : CassandraClusterSpec}

theorem stopPosition_eq_some (inside : position < requested.dcNames.length)
    (before : ∀ earlier < position, capacityMissing platform oldSpec requested earlier = false ∧
      classMissing platform oldSpec requested earlier = false)
    (here : (capacityMissing platform oldSpec requested position || classMissing platform oldSpec
      requested position) = true) : stopPosition platform oldSpec requested = some position := by
  unfold stopPosition
  rw [List.find?_range_eq_some]
  refine ⟨here, List.mem_range.mpr inside, fun earlier smaller => ?_⟩
  obtain ⟨capacity, storageClass⟩ := before earlier smaller
  rw [capacity, storageClass]
  rfl

theorem stopPosition_eq_none
    (never : ∀ position < requested.dcNames.length,
      capacityMissing platform oldSpec requested position = false ∧
        classMissing platform oldSpec requested position = false) :
    stopPosition platform oldSpec requested = none := by
  unfold stopPosition
  rw [List.find?_eq_none]
  intro position listed
  obtain ⟨capacity, storageClass⟩ := never position (List.mem_range.mp listed)
  simp [capacity, storageClass]

theorem checkedCapacities_le (platform : Platform) (oldSpec requested : CassandraClusterSpec) :
    checkedCapacities platform oldSpec requested ≤ requested.dcNames.length := by
  unfold checkedCapacities
  split
  · exact le_rfl
  · rename_i position stops
    unfold stopPosition at stops
    exact List.mem_range.mp (List.mem_of_find?_eq_some stops)

/-! ## The loop -/

/-- The spec agrees with the two repairs as far as they got. -/
structure SettingsLeft (platform : Platform) (oldSpec requested : CassandraClusterSpec)
    (capacities classes : Nat) (spec : CassandraClusterSpec) : Prop where
  names : spec.dcNames = requested.dcNames
  capacities : (capacityRepair platform oldSpec requested).Agrees spec.capacities
    ((capacityRepair platform oldSpec requested).reached requested.capacities capacities)
  classes : (classRepair platform oldSpec requested).Agrees spec.classes
    ((classRepair platform oldSpec requested).reached requested.classes classes)

/-- What the loop leaves in the first iterations. -/
def LeftAt (platform : Platform) (oldSpec requested : CassandraClusterSpec) (count : Nat)
    (check : SettingsCheck) : Prop :=
  (check.fault = false ∧ SettingsAt platform oldSpec requested count check.spec) ∨
    (check.fault = true ∧ SettingsLeft platform oldSpec requested
      (checkedCapacities platform oldSpec requested)
      (checkedClasses platform oldSpec requested) check.spec)

theorem SettingsAt.missing_before {count : Nat}
    (settings : SettingsAt platform oldSpec requested count spec) (before : position < count) :
    capacityMissing platform oldSpec requested position = false ∧
      classMissing platform oldSpec requested position = false :=
  ⟨Positions.Repair.misses_of_run settings.capacities before,
    Positions.Repair.misses_of_run settings.classes before⟩

theorem SettingsAt.capacityStops (settings : SettingsAt platform oldSpec requested dc spec)
    (inside : dc < requested.dcNames.length)
    (fires : (capacityRepair platform oldSpec requested).fires spec.capacities dc = true)
    (missing : oldSpec.dcCapacities[dc]? = none) :
    SettingsLeft platform oldSpec requested (checkedCapacities platform oldSpec requested)
      (checkedClasses platform oldSpec requested)
      { spec with dataCapacity := oldSpec.dataCapacity } := by
  have progress := Positions.Repair.run_progress dc settings.capacities
  have here : capacityMissing platform oldSpec requested dc = true := progress.misses fires missing
  have stops := stopPosition_eq_some inside (fun _ before => settings.missing_before before)
    (Bool.or_eq_true_iff.mpr (.inl here))
  have capacities : checkedCapacities platform oldSpec requested = dc + 1 := by
    unfold checkedCapacities
    rw [stops]
  have classes : checkedClasses platform oldSpec requested = dc := by
    unfold checkedClasses
    rw [stops]
    exact if_pos here
  rw [capacities, classes]
  exact ⟨settings.names, progress.stuck fires missing,
    (Positions.Repair.run_progress dc settings.classes).agrees⟩

theorem classStops (inside : dc < requested.dcNames.length)
    (before : ∀ earlier < dc, capacityMissing platform oldSpec requested earlier = false ∧
      classMissing platform oldSpec requested earlier = false)
    (names : spec.dcNames = requested.dcNames)
    (capacities : (capacityRepair platform oldSpec requested).run requested.capacities (dc + 1) =
      some spec.capacities)
    (classes : (classRepair platform oldSpec requested).run requested.classes dc = some
      spec.classes) (fires : (classRepair platform oldSpec requested).fires spec.classes dc = true)
    (missing : oldSpec.dcClasses[dc]? = none) :
    SettingsLeft platform oldSpec requested (checkedCapacities platform oldSpec requested)
      (checkedClasses platform oldSpec requested)
      { spec with dataStorageClass := oldSpec.dataStorageClass } := by
  have progress := Positions.Repair.run_progress dc classes
  have present : capacityMissing platform oldSpec requested dc = false :=
    Positions.Repair.misses_of_run capacities (Nat.lt_succ_self dc)
  have here : classMissing platform oldSpec requested dc = true := progress.misses fires missing
  have stops := stopPosition_eq_some inside before (Bool.or_eq_true_iff.mpr (.inr here))
  have capacities' : checkedCapacities platform oldSpec requested = dc + 1 := by
    unfold checkedCapacities
    rw [stops]
  have classes' : checkedClasses platform oldSpec requested = dc + 1 := by
    unfold checkedClasses
    rw [stops]
    exact if_neg (by simp [present])
  rw [capacities', classes']
  exact ⟨names, (Positions.Repair.run_progress _ capacities).agrees,
    progress.stuck fires missing⟩

theorem checkDataStorageClass_left {check : SettingsCheck} (sound : check.fault = false)
    (faulty : (checkDataStorageClass oldSpec dc dcName check).fault = true) :
    check.spec.getDataStorageClassFromDCName dcName ≠
        oldSpec.getDataStorageClassFromDCName dcName ∧
      oldSpec.dcClasses[dc]? = none ∧
      (checkDataStorageClass oldSpec dc dcName check).spec =
        { check.spec with dataStorageClass := oldSpec.dataStorageClass } := by
  unfold checkDataStorageClass at faulty ⊢
  split at faulty
  · rename_i differs
    rw [if_pos differs]
    rcases restoreDataStorageClass_eq oldSpec check dc with
      ⟨missing, _, left⟩ | ⟨_, _, sound', _⟩
    · exact ⟨differs, missing, left⟩
    · rw [sound'] at faulty
      cases faulty
  · rw [sound] at faulty
    cases faulty

theorem LeftAt.succ {check : SettingsCheck} (left : LeftAt platform oldSpec requested dc check)
    (inside : dc < requested.dcNames.length) :
    LeftAt platform oldSpec requested (dc + 1) (checkDCSettings platform oldSpec check dc) := by
  unfold checkDCSettings
  rcases left with ⟨sound, settings⟩ | ⟨faulty, left⟩
  · rw [if_neg (by simp [sound])]
    dsimp only
    rcases checkDataCapacity_run inside sound settings with
      ⟨faulty, _, fires, missing, left⟩ | ⟨sound', names, classes, capacities⟩
    · rw [if_pos faulty]
      refine Or.inr ⟨faulty, ?_⟩
      rw [left]
      exact settings.capacityStops inside fires missing
    · rw [if_neg (by simp [sound'])]
      have named := CassandraClusterSpec.getDCName_congr (settings.names.trans names.symm) dc
      have ran := settings.classes
      rw [← classes] at ran
      rcases checkDataStorageClass_run inside sound' names capacities ran named with
        done | ⟨faulty, _⟩
      · exact Or.inl done
      · obtain ⟨differs, missing, left⟩ := checkDataStorageClass_left sound' faulty
        have fires := classRepair_fires_iff names inside fun dcName member before =>
          settledCapacity_of_run capacities member (Nat.lt_succ_of_le before)
        rw [← named] at fires
        refine Or.inr ⟨faulty, ?_⟩
        rw [left]
        exact classStops inside (fun _ before => settings.missing_before before) names capacities
          ran (fires.mpr differs) missing
  · rw [if_pos faulty]
    exact Or.inr ⟨faulty, left⟩

/-- However the check of the settings ends, it leaves what the two repairs have made. -/
theorem checkSettings_left (needUpdate : Bool) :
    SettingsLeft platform oldSpec requested (checkedCapacities platform oldSpec requested)
      (checkedClasses platform oldSpec requested)
      (checkSettings platform needUpdate requested oldSpec).spec := by
  have start : LeftAt platform oldSpec requested 0
      (checkNodesPerRacks oldSpec { spec := requested, needUpdate := needUpdate }) := by
    unfold checkNodesPerRacks
    split
    · exact Or.inl ⟨rfl, rfl, rfl, rfl⟩
    · exact Or.inl ⟨rfl, rfl, rfl, rfl⟩
  rcases checkSettings_invariant (LeftAt platform oldSpec requested) start
    fun _ inside _ left => left.succ inside with ⟨_, settings⟩ | ⟨_, left⟩
  · have never := stopPosition_eq_none fun _ inside => settings.missing_before inside
    have capacities : checkedCapacities platform oldSpec requested =
        requested.dcNames.length := by
      unfold checkedCapacities
      rw [never]
    have classes : checkedClasses platform oldSpec requested = requested.dcNames.length := by
      unfold checkedClasses
      rw [never]
    rw [capacities, classes]
    exact ⟨settings.names, (Positions.Repair.run_progress _ settings.capacities).agrees,
      (Positions.Repair.run_progress _ settings.classes).agrees⟩
  · exact left

end Ends

/-! ## The settings of a DC -/

section Stays

variable (platform : Platform) (oldSpec requested : CassandraClusterSpec)

/-- The capacity the DC at the position is left with of its own. -/
def leftCapacity (position : Nat) : String :=
  let own := (requested.dcCapacities[position]?).getD ""
  if position < checkedCapacities platform oldSpec requested ∧
      PutBack platform oldSpec requested position then
    (oldSpec.dcCapacities[position]?).getD own
  else own

/-- The global storage class that is left. -/
def leftClass : String :=
  if (classRepair platform oldSpec requested).firedBefore requested.classes
      (checkedClasses platform oldSpec requested) then
    oldSpec.dataStorageClass
  else requested.dataStorageClass

/-- The DC at the position is left with no less than it had: what is put back is enough, or
what it asks for is, under the global capacity that is left. -/
structure CapacityStaysAt (position : Nat) (dcName : String) : Prop where
  putBack : position < checkedCapacities platform oldSpec requested →
    PutBack platform oldSpec requested position →
    (oldSpec.dcNames.length ≤ position → (requested.dcCapacities[position]?).getD "" = "") ∧
      ¬ SmallerCapacity platform (oldSpec.capacityAt position)
        (oldSpec.getDataCapacityFromDCName dcName)
  kept : (position < checkedCapacities platform oldSpec requested →
      ¬ PutBack platform oldSpec requested position) →
    ¬ AsksForLess platform oldSpec
      (comparedAt platform oldSpec requested (checkedCapacities platform oldSpec requested))
      dcName

/-- The DC at the position is left with the storage class it had. -/
structure ClassStaysAt (position : Nat) (dcName : String) : Prop where
  putBack : position < checkedClasses platform oldSpec requested →
    (classRepair platform oldSpec requested).repairs requested.classes position = true →
    (if leftCapacity platform oldSpec requested position ≠ "" then
        (oldSpec.dcClasses[position]?).getD ((requested.dcClasses[position]?).getD "")
      else oldSpec.dataStorageClass) = oldSpec.getDataStorageClassFromDCName dcName
  kept : (position < checkedClasses platform oldSpec requested →
      (classRepair platform oldSpec requested).repairs requested.classes position = false) →
    (if leftCapacity platform oldSpec requested position ≠ "" then
        (requested.dcClasses[position]?).getD ""
      else leftClass platform oldSpec requested) = oldSpec.getDataStorageClassFromDCName dcName

end Stays

section Stays

variable {platform : Platform} {oldSpec requested spec : CassandraClusterSpec}
  (left : SettingsLeft platform oldSpec requested (checkedCapacities platform oldSpec requested)
    (checkedClasses platform oldSpec requested) spec)

include left

variable (first : requested.FirstAt position dcName)

include first

theorem SettingsLeft.ownCapacity :
    (spec.dcCapacities[position]?).getD "" = leftCapacity platform oldSpec requested position := by
  have inside : position < requested.dcNames.length := (List.getElem?_eq_some_iff.mp first.1).1
  have here : (capacityRepair platform oldSpec requested).names.idxOf dcName = position :=
    first.idxOf
  have own := left.capacities.own dcName (List.mem_of_getElem? first.1)
  rw [here, Positions.Repair.getElem?_reached] at own
  obtain ⟨capacity, asked⟩ := first.exists_capacity
  have asked' : requested.capacities.own[position]? = some capacity := asked
  have own' : spec.dcCapacities[position]? = _ := own
  unfold leftCapacity
  simp only [putBack_iff_repairs inside]
  rw [own', asked', asked]
  split <;> rfl

theorem SettingsLeft.capacity :
    spec.getDataCapacityFromDCName dcName =
      if leftCapacity platform oldSpec requested position ≠ "" then
        leftCapacity platform oldSpec requested position
      else (comparedAt platform oldSpec requested
        (checkedCapacities platform oldSpec requested)).dataCapacity := by
  have first' := first.congr left.names
  obtain ⟨capacity, own⟩ := first'.exists_capacity
  have left' := left.ownCapacity first
  rw [own, Option.getD_some] at left'
  have compared := @comparedAt_capacities platform oldSpec requested _
    (checkedCapacities_le platform oldSpec requested)
  have global : spec.dataCapacity = _ :=
    left.capacities.shared.trans (congrArg Positions.Setting.shared compared).symm
  rw [first'.capacity own, left', global]
  rfl

theorem SettingsLeft.capacityStaysAt_iff :
    ¬ AsksForLess platform oldSpec spec dcName ↔
      CapacityStaysAt platform oldSpec requested position dcName := by
  have inside : position < requested.dcNames.length := (List.getElem?_eq_some_iff.mp first.1).1
  obtain ⟨capacity, asked⟩ := first.exists_capacity
  have value := left.capacity first
  unfold AsksForLess
  rw [value]
  by_cases putBack : position < checkedCapacities platform oldSpec requested ∧
      PutBack platform oldSpec requested position
  · have fired : LessBefore platform oldSpec requested
        (checkedCapacities platform oldSpec requested) := by
      rw [lessBefore_iff_firedBefore (checkedCapacities_le _ _ _)]
      exact Positions.Repair.firedBefore_of_repairs putBack.1
        ((putBack_iff_repairs inside).mp putBack.2)
    have global : (comparedAt platform oldSpec requested
        (checkedCapacities platform oldSpec requested)).dataCapacity =
          oldSpec.dataCapacity := by
      unfold comparedAt
      rw [if_pos fired]
    have leftAt : leftCapacity platform oldSpec requested position =
        (oldSpec.dcCapacities[position]?).getD capacity := by
      unfold leftCapacity
      rw [if_pos putBack, asked]
      rfl
    rw [global, leftAt]
    cases old : oldSpec.dcCapacities[position]? with
    | some oldCapacity =>
      have here : position < oldSpec.dcNames.length := by
        rw [← oldSpec.length_dcCapacities]
        exact (List.getElem?_eq_some_iff.mp old).1
      have back : oldSpec.capacityAt position =
          if oldCapacity ≠ "" then oldCapacity else oldSpec.dataCapacity := by
        unfold CassandraClusterSpec.capacityAt
        rw [old]
        rfl
      rw [Option.getD_some, ← back]
      constructor
      · intro enough
        exact ⟨fun _ _ => ⟨fun beyond => absurd here (Nat.not_lt.mpr beyond), enough⟩,
          fun kept => absurd putBack.2 (kept putBack.1)⟩
      · intro stays
        exact (stays.putBack putBack.1 putBack.2).2
    | none =>
      have beyond : oldSpec.dcNames.length ≤ position := by
        rw [← oldSpec.length_dcCapacities]
        exact List.getElem?_eq_none_iff.mp old
      have back : oldSpec.capacityAt position = oldSpec.dataCapacity := by
        unfold CassandraClusterSpec.capacityAt
        rw [old]
        rfl
      rw [Option.getD_none]
      by_cases set : capacity = ""
      · rw [if_neg (not_not.mpr set), ← back]
        exact ⟨fun enough => ⟨fun _ _ => ⟨fun _ => by rw [asked]; exact set, enough⟩,
            fun kept => absurd putBack.2 (kept putBack.1)⟩,
          fun stays => (stays.putBack putBack.1 putBack.2).2⟩
      -- What the DC asks for stays although it was refused.
      · have less := putBack.2
        unfold PutBack AsksForLess at less
        rw [CassandraClusterSpec.getDCName_of_getElem? first.1,
          (first.congr (comparedAt_dcNames position)).capacity
            ((comparedAt_dcCapacities position).symm ▸ asked), if_pos set] at less
        rw [if_pos set]
        refine iff_of_false (not_not.mpr less) fun stays => set ?_
        have unset := (stays.putBack putBack.1 putBack.2).1 beyond
        rwa [asked] at unset
  · have leftAt : leftCapacity platform oldSpec requested position = capacity := by
      unfold leftCapacity
      rw [if_neg putBack, asked]
      rfl
    have compared := (first.congr (@comparedAt_dcNames platform oldSpec requested
      (checkedCapacities platform oldSpec requested))).capacity
        ((comparedAt_dcCapacities _).symm ▸ asked)
    rw [leftAt, ← compared]
    exact ⟨fun enough => ⟨fun before back => absurd ⟨before, back⟩ putBack, fun _ => enough⟩,
      fun stays => stays.kept fun before back => putBack ⟨before, back⟩⟩

theorem SettingsLeft.storageClass :
    spec.getDataStorageClassFromDCName dcName =
      if leftCapacity platform oldSpec requested position ≠ "" then
        if position < checkedClasses platform oldSpec requested ∧
            (classRepair platform oldSpec requested).repairs requested.classes position = true then
          (oldSpec.dcClasses[position]?).getD ((requested.dcClasses[position]?).getD "")
        else (requested.dcClasses[position]?).getD ""
      else leftClass platform oldSpec requested := by
  have member := List.mem_of_getElem? first.1
  have here : requested.dcNames.idxOf dcName = position := first.idxOf
  obtain ⟨dc, found, stands⟩ := getElem?_idxOf_dcNames (left.names.symm ▸ member)
  rw [left.names, here] at stands
  have capacity := left.ownCapacity first
  have own := left.classes.own dcName member
  have shared : spec.dataStorageClass = leftClass platform oldSpec requested := by
    refine left.classes.shared.trans ?_
    unfold leftClass Positions.Repair.reached Positions.Repair.comparedAt
    dsimp only
    split <;> rfl
  have ownCapacity : dc.dataCapacity = leftCapacity platform oldSpec requested position := by
    rw [← capacity]
    simp [CassandraClusterSpec.dcCapacities, stands]
  obtain ⟨storageClass, asked⟩ : ∃ storageClass,
      requested.dcClasses[position]? = some storageClass := by
    have inside := (List.getElem?_eq_some_iff.mp first.1).1
    rw [← requested.length_dcClasses] at inside
    exact ⟨_, List.getElem?_eq_getElem inside⟩
  have ownClass : dc.dataStorageClass =
      if position < checkedClasses platform oldSpec requested ∧
          (classRepair platform oldSpec requested).repairs requested.classes position = true then
        (oldSpec.dcClasses[position]?).getD storageClass
      else storageClass := by
    have asked' : requested.classes.own[position]? = some storageClass := asked
    have stands' : spec.classes.own[position]? = some dc.dataStorageClass := by
      simp [CassandraClusterSpec.classes, CassandraClusterSpec.dcClasses, stands]
    rw [show (classRepair platform oldSpec requested).names.idxOf dcName = position from here,
      Positions.Repair.getElem?_reached, asked', stands', Option.map_some,
      ← apply_ite some] at own
    exact Option.some.inj own
  unfold CassandraClusterSpec.getDataStorageClassFromDCName
  rw [found, asked]
  dsimp only
  rw [ownCapacity, ownClass, shared]
  rfl

theorem SettingsLeft.classStaysAt_iff :
    spec.getDataStorageClassFromDCName dcName = oldSpec.getDataStorageClassFromDCName dcName ↔
      ClassStaysAt platform oldSpec requested position dcName := by
  rw [left.storageClass first]
  by_cases putBack : position < checkedClasses platform oldSpec requested ∧
      (classRepair platform oldSpec requested).repairs requested.classes position = true
  · have fired := Positions.Repair.firedBefore_of_repairs putBack.1 putBack.2
    unfold leftClass
    rw [if_pos putBack, if_pos fired]
    refine ⟨fun same => ⟨fun _ _ => same, fun kept => ?_⟩,
      fun stays => stays.putBack putBack.1 putBack.2⟩
    rw [kept putBack.1] at putBack
    cases putBack.2
  · rw [if_neg putBack]
    exact ⟨fun same => ⟨fun before back => absurd ⟨before, back⟩ putBack, fun _ => same⟩,
      fun stays => stays.kept fun before => Bool.eq_false_iff.mpr fun back =>
        putBack ⟨before, back⟩⟩

end Stays

/-! ## Node counts -/

/-- The counts the DCs declare. -/
def CassandraClusterSpec.dcNodes (spec : CassandraClusterSpec) : List (Option Int) :=
  spec.topology.dc.map DC.nodesPerRacks

section Nodes

variable {platform : Platform} {oldSpec requested : CassandraClusterSpec}

theorem SettingsCheck.restore_nodes (check : SettingsCheck) (oldSpec : CassandraClusterSpec)
    (dc : Nat) {restoreSpec : CassandraClusterSpec → CassandraClusterSpec}
    {restoreDC : DC → DC → DC} (topology : (restoreSpec check.spec).topology = check.spec.topology)
    (nodes : (restoreSpec check.spec).nodesPerRacks = check.spec.nodesPerRacks)
    (own : ∀ oldDC storeDC, (restoreDC oldDC storeDC).nodesPerRacks = storeDC.nodesPerRacks) :
    (check.restore oldSpec dc restoreSpec restoreDC).spec.dcNodes = check.spec.dcNodes ∧
      (check.restore oldSpec dc restoreSpec restoreDC).spec.nodesPerRacks =
        check.spec.nodesPerRacks := by
  unfold SettingsCheck.restore CassandraClusterSpec.dcNodes
  dsimp only
  rw [topology]
  split
  · dsimp only
    rw [topology]
    exact ⟨rfl, nodes⟩
  · rename_i oldDC _
    exact ⟨Positions.map_modify_same _ _ _ _ (own oldDC), nodes⟩

theorem checkDCSettings_nodes (check : SettingsCheck) (dc : Nat) :
    (checkDCSettings platform oldSpec check dc).spec.dcNodes = check.spec.dcNodes ∧
      (checkDCSettings platform oldSpec check dc).spec.nodesPerRacks =
        check.spec.nodesPerRacks := by
  have capacity : ∀ dcName,
      (checkDataCapacity platform oldSpec dc dcName check).spec.dcNodes = check.spec.dcNodes ∧
        (checkDataCapacity platform oldSpec dc dcName check).spec.nodesPerRacks =
          check.spec.nodesPerRacks := by
    intro dcName
    unfold checkDataCapacity
    split
    · exact check.restore_nodes oldSpec dc rfl rfl fun _ _ => rfl
    · exact ⟨rfl, rfl⟩
  have storageClass : ∀ dcName (check : SettingsCheck),
      (checkDataStorageClass oldSpec dc dcName check).spec.dcNodes = check.spec.dcNodes ∧
        (checkDataStorageClass oldSpec dc dcName check).spec.nodesPerRacks =
          check.spec.nodesPerRacks := by
    intro dcName check
    unfold checkDataStorageClass
    split
    · exact check.restore_nodes oldSpec dc rfl rfl fun _ _ => rfl
    · exact ⟨rfl, rfl⟩
  unfold checkDCSettings
  split
  · exact ⟨rfl, rfl⟩
  dsimp only
  split
  · exact capacity _
  · obtain ⟨own, shared⟩ := storageClass (check.spec.getDCName dc)
      (checkDataCapacity platform oldSpec dc (check.spec.getDCName dc) check)
    exact ⟨own.trans (capacity _).1, shared.trans (capacity _).2⟩

theorem checkSettings_nodes (needUpdate : Bool) :
    (checkSettings platform needUpdate requested oldSpec).spec.dcNodes = requested.dcNodes ∧
      (checkSettings platform needUpdate requested oldSpec).spec.nodesPerRacks =
        if requested.nodesPerRacks = 0 then oldSpec.nodesPerRacks
        else requested.nodesPerRacks := by
  refine checkSettings_invariant
    (fun _ check => check.spec.dcNodes = requested.dcNodes ∧ check.spec.nodesPerRacks =
      if requested.nodesPerRacks = 0 then oldSpec.nodesPerRacks else requested.nodesPerRacks)
    ?_ fun dc _ check kept => ?_
  · unfold checkNodesPerRacks
    dsimp only
    split
    · exact ⟨rfl, rfl⟩
    · exact ⟨rfl, rfl⟩
  · obtain ⟨own, shared⟩ := @checkDCSettings_nodes platform oldSpec check dc
    exact ⟨own.trans kept.1, shared.trans kept.2⟩

end Nodes

end Casskop
