import Casskop.Validation.SettingsLoop

/-!
# Data capacities that are put back

The loop of `CheckNonAllowedChanges` refuses a smaller data capacity by putting back the
global one together with the one of the DC at the same position.  Whether another DC keeps
its capacity then depends on where it stands and on where its capacity comes from.
-/

namespace Casskop

/-! ## The loop -/

section Loop

variable (platform : Platform) (oldSpec requested : CassandraClusterSpec)

/-- A DC at an earlier position asks for less. -/
def LessBefore (position : Nat) : Prop :=
  ∃ earlier < position, AsksForLess platform oldSpec requested (requested.getDCName earlier)

instance (position : Nat) : Decidable (LessBefore platform oldSpec requested position) :=
  inferInstanceAs (Decidable (∃ earlier < position, _))

/-- The spec under the global capacity the loop has when it gets to the position. -/
def comparedAt (position : Nat) : CassandraClusterSpec :=
  if LessBefore platform oldSpec requested position then
    { requested with dataCapacity := oldSpec.dataCapacity }
  else requested

/-- The capacity of the DC at the position is put back. -/
def PutBack (position : Nat) : Prop :=
  AsksForLess platform oldSpec (comparedAt platform oldSpec requested position)
    (requested.getDCName position)

instance (position : Nat) : Decidable (PutBack platform oldSpec requested position) :=
  inferInstanceAs (Decidable (AsksForLess _ _ _ _))

/-- The capacities when the loop gets to a position. -/
structure LoopCapacities (position : Nat) (spec : CassandraClusterSpec) : Prop where
  names : spec.dcNames = requested.dcNames
  global : spec.dataCapacity =
    (comparedAt platform oldSpec requested position).dataCapacity
  untouched : ¬ LessBefore platform oldSpec requested position →
    spec.dcCapacities = requested.dcCapacities
  first : ∀ index dcName, requested.FirstAt index dcName →
    spec.dcCapacities[index]? =
      if index < position ∧ PutBack platform oldSpec requested index then
        oldSpec.dcCapacities[index]?
      else requested.dcCapacities[index]?

end Loop

section Loop

variable {platform : Platform} {oldSpec requested : CassandraClusterSpec}

theorem comparedAt_dcNames (position : Nat) :
    (comparedAt platform oldSpec requested position).dcNames = requested.dcNames := by
  unfold comparedAt
  split <;> rfl

theorem comparedAt_dcCapacities (position : Nat) :
    (comparedAt platform oldSpec requested position).dcCapacities = requested.dcCapacities := by
  unfold comparedAt
  split <;> rfl

theorem lessBefore_iff_firedBefore {position : Nat} (inside : position ≤ requested.dcNames.length) :
    LessBefore platform oldSpec requested position ↔
      (capacityRepair platform oldSpec requested).firedBefore requested.capacities position =
        true := by
  rw [Positions.Repair.firedBefore_eq_true_iff]
  refine exists_congr fun earlier => and_congr_right fun before => ?_
  exact (capacityRepair_fires_iff rfl (lt_of_lt_of_le before inside)).symm

theorem comparedAt_capacities {position : Nat} (inside : position ≤ requested.dcNames.length) :
    (comparedAt platform oldSpec requested position).capacities =
      (capacityRepair platform oldSpec requested).comparedAt requested.capacities position := by
  unfold comparedAt Positions.Repair.comparedAt
  simp only [lessBefore_iff_firedBefore inside]
  split <;> rfl

theorem putBack_iff_repairs {position : Nat} (inside : position < requested.dcNames.length) :
    PutBack platform oldSpec requested position ↔
      (capacityRepair platform oldSpec requested).repairs requested.capacities position = true := by
  have names := @comparedAt_dcNames platform oldSpec requested position
  unfold PutBack Positions.Repair.repairs
  rw [← comparedAt_capacities inside.le, capacityRepair_fires_iff names inside,
    CassandraClusterSpec.getDCName_congr names]

theorem checkSettings_capacities {needUpdate : Bool}
    (sound : (checkSettings platform needUpdate requested oldSpec).fault = false) :
    LoopCapacities platform oldSpec requested requested.dcNames.length
      (checkSettings platform needUpdate requested oldSpec).spec := by
  obtain ⟨names, ran, _⟩ := checkSettings_settingsAt sound
  have progress := Positions.Repair.run_progress _ ran
  refine ⟨names, ?_, fun none => ?_, fun index dcName first => ?_⟩
  · have shared := progress.agrees.shared
    have compared := @comparedAt_capacities platform oldSpec requested _ le_rfl
    exact shared.trans (congrArg Positions.Setting.shared compared).symm
  · rw [lessBefore_iff_firedBefore le_rfl, Bool.not_eq_true] at none
    exact congrArg Positions.Setting.own (progress.untouched none)
  · have inside : index < requested.dcNames.length := (List.getElem?_eq_some_iff.mp first.1).1
    have own := Positions.Repair.run_own ran (List.mem_of_getElem? first.1)
    have here : (capacityRepair platform oldSpec requested).names.idxOf dcName = index :=
      first.idxOf
    rw [here] at own
    simp only [putBack_iff_repairs inside]
    exact own

end Loop

/-! ## The whole check -/

/-- The capacity the old spec has at a position, whatever DC stands there. -/
def CassandraClusterSpec.capacityAt (spec : CassandraClusterSpec) (position : Nat) : String :=
  let own := (spec.dcCapacities[position]?).getD ""
  if own ≠ "" then own else spec.dataCapacity

/-- No DC of both specs ends with less than it had, and one that did not ask for less has
what it asked for. -/
def CapacitiesCorrected (platform : Platform) (oldSpec requested final : CassandraClusterSpec) :
    Prop :=
  ∀ dcName ∈ requested.dcNames, dcName ∈ oldSpec.dcNames →
    ¬ AsksForLess platform oldSpec final dcName ∧
      (¬ AsksForLess platform oldSpec requested dcName →
        final.getDataCapacityFromDCName dcName = requested.getDataCapacityFromDCName dcName)

/-- What the corrections need to be right about the DC at a position: a capacity that is put
back is enough for the DC and what it asked for, unless that was less; one that is not put
back does not come from a global capacity that is. -/
structure CorrectedAt (platform : Platform) (oldSpec requested : CassandraClusterSpec)
    (position : Nat) (dcName : String) : Prop where
  putBack : PutBack platform oldSpec requested position →
    ¬ SmallerCapacity platform (oldSpec.capacityAt position)
        (oldSpec.getDataCapacityFromDCName dcName) ∧
      (¬ AsksForLess platform oldSpec requested dcName →
        oldSpec.capacityAt position = requested.getDataCapacityFromDCName dcName)
  kept : ¬ PutBack platform oldSpec requested position →
    ¬ AsksForLess platform oldSpec requested dcName →
    (requested.dcCapacities[position]?).getD "" ≠ "" ∨
      requested.dataCapacity = oldSpec.dataCapacity

section Final

variable {platform : Platform} {oldSpec requested final : CassandraClusterSpec}

section

variable (loop : LoopCapacities platform oldSpec requested requested.dcNames.length final)

include loop

theorem LoopCapacities.final_capacity
    (less : LessBefore platform oldSpec requested requested.dcNames.length) {position : Nat}
    {dcName : String} (first : requested.FirstAt position dcName) :
    final.getDataCapacityFromDCName dcName =
      if PutBack platform oldSpec requested position then oldSpec.capacityAt position
      else
        let own := (requested.dcCapacities[position]?).getD ""
        if own ≠ "" then own else oldSpec.dataCapacity := by
  have inside : position < requested.dcNames.length := (List.getElem?_eq_some_iff.mp first.1).1
  have global : final.dataCapacity = oldSpec.dataCapacity := by
    rw [loop.global]
    unfold comparedAt
    rw [if_pos less]
  have finalFirst := first.congr loop.names
  obtain ⟨capacity, own⟩ := finalFirst.exists_capacity
  have source := loop.first position dcName first
  rw [own] at source
  rw [finalFirst.capacity own, global]
  by_cases putBack : PutBack platform oldSpec requested position
  · rw [if_pos ⟨inside, putBack⟩] at source
    rw [if_pos putBack]
    unfold CassandraClusterSpec.capacityAt
    rw [← source]
    rfl
  · rw [if_neg fun both => putBack both.2] at source
    rw [if_neg putBack, ← source]
    rfl

theorem LoopCapacities.correctedAt_iff
    (less : LessBefore platform oldSpec requested requested.dcNames.length) {position : Nat}
    {dcName : String} (first : requested.FirstAt position dcName) :
    ¬ AsksForLess platform oldSpec final dcName ∧
        (¬ AsksForLess platform oldSpec requested dcName →
          final.getDataCapacityFromDCName dcName =
            requested.getDataCapacityFromDCName dcName) ↔
      CorrectedAt platform oldSpec requested position dcName := by
  have corrected := loop.final_capacity less first
  obtain ⟨capacity, own⟩ := first.exists_capacity
  have asked := first.capacity own
  by_cases putBack : PutBack platform oldSpec requested position
  · rw [if_pos putBack] at corrected
    unfold AsksForLess
    rw [corrected]
    exact ⟨fun both => ⟨fun _ => both, fun kept => absurd putBack kept⟩,
      fun correctedAt => correctedAt.putBack putBack⟩
  rw [if_neg putBack, own] at corrected
  change _ = if capacity ≠ "" then capacity else oldSpec.dataCapacity at corrected
  -- What is kept is what was asked for, or it comes from the old global capacity.
  have same : capacity ≠ "" ∨ requested.dataCapacity = oldSpec.dataCapacity →
      final.getDataCapacityFromDCName dcName =
        requested.getDataCapacityFromDCName dcName := by
    rintro (set | global)
    · rw [corrected, asked, if_pos set, if_pos set]
    · rw [corrected, asked, global]
  constructor
  · rintro ⟨_, kept⟩
    refine ⟨fun impossible => absurd impossible putBack, fun _ enough => ?_⟩
    rw [own]
    by_cases set : capacity ≠ ""
    · exact Or.inl set
    · have equal := kept enough
      rw [corrected, asked, if_neg set, if_neg set] at equal
      exact Or.inr equal.symm
  · intro correctedAt
    have kept : ¬ AsksForLess platform oldSpec requested dcName →
        final.getDataCapacityFromDCName dcName =
          requested.getDataCapacityFromDCName dcName := by
      intro enough
      have source := correctedAt.kept putBack enough
      rw [own] at source
      exact same source
    refine ⟨?_, kept⟩
    unfold PutBack at putBack
    rw [CassandraClusterSpec.getDCName_of_getElem? first.1] at putBack
    by_cases earlier : LessBefore platform oldSpec requested position
    · have compared : (comparedAt platform oldSpec requested
          position).getDataCapacityFromDCName dcName =
            final.getDataCapacityFromDCName dcName := by
        rw [(first.congr (comparedAt_dcNames position)).capacity
          ((comparedAt_dcCapacities position).symm ▸ own), corrected]
        unfold comparedAt
        rw [if_pos earlier]
      unfold AsksForLess at putBack ⊢
      rwa [compared] at putBack
    · unfold comparedAt at putBack
      rw [if_neg earlier] at putBack
      unfold AsksForLess
      rw [kept putBack]
      exact putBack

theorem LoopCapacities.corrected_iff
    (less : LessBefore platform oldSpec requested requested.dcNames.length) :
    CapacitiesCorrected platform oldSpec requested final ↔
      ∀ position dcName, requested.FirstAt position dcName → dcName ∈ oldSpec.dcNames →
        CorrectedAt platform oldSpec requested position dcName := by
  constructor
  · intro corrected position dcName first known
    exact (loop.correctedAt_iff less first).mp
      (corrected dcName (List.mem_of_getElem? first.1) known)
  · intro correctedAt dcName member known
    obtain ⟨position, first⟩ := CassandraClusterSpec.exists_firstAt member
    exact (loop.correctedAt_iff less first).mpr (correctedAt position dcName first known)

end

/-- The capacities hold when what was requested is kept and nobody asked for less. -/
theorem CapacitiesCorrected.of_requested
    (none : ¬ LessBefore platform oldSpec requested requested.dcNames.length) :
    CapacitiesCorrected platform oldSpec requested requested := by
  intro dcName member _
  refine ⟨fun asks => ?_, fun _ => rfl⟩
  obtain ⟨position, first⟩ := CassandraClusterSpec.exists_firstAt member
  refine none ⟨position, (List.getElem?_eq_some_iff.mp first.1).1, ?_⟩
  rw [CassandraClusterSpec.getDCName_of_getElem? first.1]
  exact asks

theorem LoopCapacities.corrected_of_none
    (loop : LoopCapacities platform oldSpec requested requested.dcNames.length final)
    (none : ¬ LessBefore platform oldSpec requested requested.dcNames.length) :
    CapacitiesCorrected platform oldSpec requested final := by
  have global : final.dataCapacity = requested.dataCapacity := by
    rw [loop.global]
    unfold comparedAt
    rw [if_neg none]
  intro dcName member known
  have same := CassandraClusterSpec.getDataCapacityFromDCName_congr loop.names
    (loop.untouched none) global dcName
  have enough := (CapacitiesCorrected.of_requested none dcName member known).1
  refine ⟨?_, fun _ => same⟩
  unfold AsksForLess at enough ⊢
  rwa [same]

end Final

/-! ## Untouched settings -/

section Untouched

variable {platform : Platform} {oldSpec : CassandraClusterSpec}

/-- The DC at the position has its old storage class. -/
def SameStorageClass (oldSpec spec : CassandraClusterSpec) (position : Nat) : Prop :=
  spec.getDataStorageClassFromDCName (spec.getDCName position) =
    oldSpec.getDataStorageClassFromDCName (spec.getDCName position)

theorem checkDataStorageClass_touched {check : SettingsCheck} (touched : check.Touched) (dc : Nat)
    (dcName : String) : (checkDataStorageClass oldSpec dc dcName check).Touched := by
  unfold checkDataStorageClass
  split
  · exact SettingsCheck.restore_touched _ _ _ _ _
  · exact touched

theorem checkDCSettings_untouched_iff (check : SettingsCheck) (dc : Nat) :
    ¬ (checkDCSettings platform oldSpec check dc).Touched ↔
      ¬ check.Touched ∧ ¬ AsksForLess platform oldSpec check.spec (check.spec.getDCName dc) ∧
        SameStorageClass oldSpec check.spec dc := by
  unfold checkDCSettings
  split
  · rename_i faulty
    exact iff_of_false (fun untouched => untouched (Or.inr faulty))
      fun both => both.1 (Or.inr faulty)
  rename_i faultless
  dsimp only
  unfold checkDataCapacity
  split
  · rename_i downsize
    have less := (analyzeDataCapacityChange_downsize_iff _ _ _).mp downsize
    have touched : (restoreDataCapacity oldSpec dc check).Touched :=
      SettingsCheck.restore_touched _ _ _ _ _
    refine iff_of_false ?_ fun both => both.2.1 less
    split
    · exact not_not.mpr touched
    · exact not_not.mpr (checkDataStorageClass_touched touched dc _)
  · rename_i enough
    have notLess : ¬ AsksForLess platform oldSpec check.spec (check.spec.getDCName dc) :=
      fun less => enough ((analyzeDataCapacityChange_downsize_iff _ _ _).mpr less)
    rw [if_neg faultless]
    unfold checkDataStorageClass
    split
    · rename_i differs
      exact iff_of_false (fun untouched => untouched (SettingsCheck.restore_touched _ _ _ _ _))
        fun both => differs both.2.2
    · rename_i same
      exact ⟨fun untouched => ⟨untouched, notLess, not_not.mp same⟩, fun both => both.1⟩

theorem foldl_checkDCSettings_untouched_iff (check : SettingsCheck) (count : Nat) :
    ¬ ((List.range count).foldl (checkDCSettings platform oldSpec) check).Touched ↔
      ¬ check.Touched ∧ ∀ dc < count,
        ¬ AsksForLess platform oldSpec check.spec (check.spec.getDCName dc) ∧
          SameStorageClass oldSpec check.spec dc := by
  induction count with
  | zero => simp
  | succ count induction =>
    rw [List.range_succ, List.foldl_append, List.foldl_cons, List.foldl_nil,
      checkDCSettings_untouched_iff, induction]
    -- As long as nothing was touched the spec is the one the loop has started with.
    have started : ¬ ((List.range count).foldl (checkDCSettings platform oldSpec)
        check).Touched →
        (List.range count).foldl (checkDCSettings platform oldSpec) check = check :=
      fun untouched => (foldl_checkDCSettings_cases platform oldSpec _ check).resolve_right
        untouched
    constructor
    · rintro ⟨before, here⟩
      rw [started (induction.mpr before)] at here
      refine ⟨before.1, fun dc smaller => ?_⟩
      rcases Nat.lt_succ_iff_lt_or_eq.mp smaller with earlier | rfl
      · exact before.2 dc earlier
      · exact here
    · rintro ⟨untouched, all⟩
      have before := (⟨untouched, fun dc smaller => all dc (Nat.lt_succ_of_lt smaller)⟩ :
        ¬ check.Touched ∧ ∀ dc < count, _)
      refine ⟨before, ?_⟩
      rw [started (induction.mpr before)]
      exact all count (Nat.lt_succ_self count)

theorem checkSettings_untouched_iff (needUpdate : Bool) (spec : CassandraClusterSpec) :
    ¬ (checkSettings platform needUpdate spec oldSpec).Touched ↔
      needUpdate = false ∧ spec.nodesPerRacks ≠ 0 ∧ ∀ dc < spec.getDCSize,
        ¬ AsksForLess platform oldSpec spec (spec.getDCName dc) ∧
          SameStorageClass oldSpec spec dc := by
  unfold checkSettings
  rw [foldl_checkDCSettings_untouched_iff]
  unfold checkNodesPerRacks
  split
  · rename_i zero
    have zero' : spec.nodesPerRacks = 0 := zero
    simp [SettingsCheck.Touched, zero']
  · rename_i nonzero
    have nonzero' : spec.nodesPerRacks ≠ 0 := nonzero
    simp [SettingsCheck.Touched, nonzero']

end Untouched

/-! ## The topology put back -/

section Topology

variable (needUpdate : Bool) (cc : CassandraCluster) (oldSpec : CassandraClusterSpec)
  (status : CassandraClusterStatus) (answers : ChangeAnswers)

/-- The topology of the edit is refused, or it empties a DC that may not be emptied. -/
def TopologyRefused : Prop :=
  let verdict := checkTopologyChanges cc status oldSpec
    (answers.order cc.status.cassandraRackStatus)
  verdict.changed = true ∧ verdict.action = .correctCRDConfig ∨
    verdict.changed = false ∧ ScaleDownStopped cc.spec answers.scaleDown

/-- The old topology comes back, which the check only gets to if no setting had to be put
back. -/
def TopologyPutBack : Prop :=
  needUpdate = false ∧ cc.spec.nodesPerRacks ≠ 0 ∧
    (∀ dc < cc.spec.getDCSize, SameStorageClass oldSpec cc.spec dc) ∧
    TopologyRefused cc oldSpec status answers

variable {cc oldSpec status answers}

theorem checkScaleDownAndResources_spec (spec oldSpec : CassandraClusterSpec)
    (status : CassandraClusterStatus) (answers : ChangeAnswers) :
    (ScaleDownStopped spec answers.scaleDown →
      (checkScaleDownAndResources spec oldSpec status answers).spec =
        { spec with topology := oldSpec.topology }) ∧
    (¬ ScaleDownStopped spec answers.scaleDown →
      (checkScaleDownAndResources spec oldSpec status answers).spec = spec) := by
  have order := checkNonAllowedScaleDown_refused_iff spec oldSpec answers.scaleDown
  unfold checkScaleDownAndResources
  dsimp only
  constructor
  · intro stopped
    have refused := order.mpr stopped
    rw [if_pos refused, checkNonAllowedScaleDown_restores spec oldSpec _ refused]
  · intro goesOn
    have accepted : (checkNonAllowedScaleDown spec oldSpec answers.scaleDown).refused = false :=
      Bool.eq_false_iff.mpr fun refused => goesOn (order.mp refused)
    have kept := checkNonAllowedScaleDown_keeps spec oldSpec answers.scaleDown accepted
    rw [if_neg (by simp [accepted]), kept]
    split <;> rfl

theorem checkTopologyAndScaleDown_spec
    (sound : (checkTopologyAndScaleDown cc oldSpec status answers).fault = false) :
    (TopologyRefused cc oldSpec status answers →
      (checkTopologyAndScaleDown cc oldSpec status answers).spec =
        { cc.spec with topology := oldSpec.topology }) ∧
    (¬ TopologyRefused cc oldSpec status answers →
      (checkTopologyAndScaleDown cc oldSpec status answers).spec = cc.spec) := by
  unfold TopologyRefused
  unfold checkTopologyAndScaleDown at sound ⊢
  dsimp only at sound ⊢
  split at sound
  · cases sound
  rename_i whole
  simp only [if_neg whole]
  split at sound
  · rename_i changed
    simp only [changed, if_true, true_and, Bool.true_eq_false, false_and, or_false]
    exact ⟨fun refused => if_pos refused, fun accepted => if_neg accepted⟩
  · rename_i same
    simp only [Bool.not_eq_true _ ▸ same, Bool.false_eq_true, if_false, false_and, true_and,
      false_or]
    exact checkScaleDownAndResources_spec cc.spec oldSpec _ answers

end Topology

section Check

variable {platform : Platform} {needUpdate : Bool} {cc : CassandraCluster}
  {status : CassandraClusterStatus} {answers : ChangeAnswers} {oldSpec : CassandraClusterSpec}

theorem untouched_of_topologyPutBack
    (none : ¬ LessBefore platform oldSpec cc.spec cc.spec.dcNames.length)
    (putBack : TopologyPutBack needUpdate cc oldSpec status answers) :
    ¬ (checkSettings platform needUpdate cc.spec oldSpec).Touched := by
  obtain ⟨fresh, nodes, classes, _⟩ := putBack
  refine (checkSettings_untouched_iff needUpdate cc.spec).mpr ⟨fresh, nodes, fun dc inside => ?_⟩
  exact ⟨fun less => none ⟨dc, cc.spec.getDCSize_eq ▸ inside, less⟩, classes dc inside⟩

theorem not_lessBefore_of_untouched
    (untouched : ¬ (checkSettings platform needUpdate cc.spec oldSpec).Touched) :
    ¬ LessBefore platform oldSpec cc.spec cc.spec.dcNames.length := by
  rintro ⟨dc, inside, less⟩
  rw [← CassandraClusterSpec.getDCSize_eq] at inside
  exact (((checkSettings_untouched_iff needUpdate cc.spec).mp untouched).2.2 dc inside).1 less

/-- With nobody asking for less, a topology that comes back has to give every DC what was
asked for. -/
theorem capacitiesCorrected_oldTopology_iff
    (none : ¬ LessBefore platform oldSpec cc.spec cc.spec.dcNames.length) :
    CapacitiesCorrected platform oldSpec cc.spec
        { cc.spec with topology := oldSpec.topology } ↔
      ∀ dcName ∈ cc.spec.dcNames, dcName ∈ oldSpec.dcNames →
        ({ cc.spec with topology := oldSpec.topology }
            : CassandraClusterSpec).getDataCapacityFromDCName dcName =
          cc.spec.getDataCapacityFromDCName dcName := by
  have enough := CapacitiesCorrected.of_requested none
  constructor
  · intro corrected dcName member known
    exact (corrected dcName member known).2 (enough dcName member known).1
  · intro same dcName member known
    have kept := same dcName member known
    refine ⟨?_, fun _ => kept⟩
    have notLess := (enough dcName member known).1
    unfold AsksForLess at notLess ⊢
    rwa [kept]

/-- The repairs of the DCs decide a law if one of them fires, and otherwise an old topology. -/
theorem checkNonAllowedChanges_law_iff {law : CassandraClusterSpec → Prop} {fires kept : Prop}
    {old : LastApplied} (applied : cc.annotation = .config old)
    (returned : (checkNonAllowedChanges platform needUpdate cc status answers).fault = false)
    (unedited : cc.spec = old.spec → law cc.spec ∧ ¬ fires)
    (repaired : (checkSettings platform needUpdate cc.spec old.spec).fault = false →
      (law (checkSettings platform needUpdate cc.spec old.spec).spec ↔ (fires → kept)))
    (fresh : ¬ (checkSettings platform needUpdate cc.spec old.spec).Touched → ¬ fires) :
    law (checkNonAllowedChanges platform needUpdate cc status answers).spec ↔
      (fires → kept) ∧ (¬ LessBefore platform old.spec cc.spec cc.spec.dcNames.length →
        TopologyPutBack needUpdate cc old.spec status answers →
        law { cc.spec with topology := old.spec.topology }) := by
  have editCase := checkNonAllowedChanges_case platform needUpdate cc status answers applied
  generalize checkNonAllowedChanges platform needUpdate cc status answers = check
    at editCase returned ⊢
  cases editCase with
  | same same =>
    have spec : cc.spec = old.spec := congrArg LastApplied.spec same
    obtain ⟨holds, unfired⟩ := unedited spec
    refine iff_of_true holds ⟨fun fired => absurd fired unfired, fun _ _ => ?_⟩
    rw [← spec]
    exact holds
  | faulty => cases returned
  | corrected edited sound corrects =>
    rw [repaired sound]
    refine (and_iff_left fun none putBack => ?_).symm
    exact absurd (Or.inl corrects) (untouched_of_topologyPutBack none putBack)
  | accepted edited untouched =>
    have unfired := fresh untouched
    have holds := repaired (Bool.eq_false_iff.mpr (not_or.mp untouched).2)
    rw [checkSettings_unchanged platform needUpdate cc.spec old.spec untouched] at holds
    obtain ⟨fresh, nodes, each⟩ := (checkSettings_untouched_iff needUpdate cc.spec).mp untouched
    obtain ⟨refused, accepted⟩ := checkTopologyAndScaleDown_spec returned
    by_cases stopped : TopologyRefused cc old.spec status answers
    · rw [refused stopped]
      exact ⟨fun back => ⟨fun fired => absurd fired unfired, fun _ _ => back⟩,
        fun both => both.2 (not_lessBefore_of_untouched untouched)
          ⟨fresh, nodes, fun dc inside => (each dc inside).2, stopped⟩⟩
    · rw [accepted stopped]
      exact iff_of_true (holds.mpr fun fired => absurd fired unfired)
        ⟨fun fired => absurd fired unfired, fun _ putBack => absurd putBack.2.2.2 stopped⟩

/-- Where some DC asks for less, every DC has to be right about what is put back at its
position and in the global capacity; where none does, a topology that is put back has to
leave the capacities alone. -/
theorem checkNonAllowedChanges_capacities_iff (platform : Platform) (needUpdate : Bool)
    (cc : CassandraCluster) (status : CassandraClusterStatus) (answers : ChangeAnswers)
    (old : LastApplied) (applied : cc.annotation = .config old)
    (returned : (checkNonAllowedChanges platform needUpdate cc status answers).fault = false) :
    CapacitiesCorrected platform old.spec cc.spec
        (checkNonAllowedChanges platform needUpdate cc status answers).spec ↔
      (LessBefore platform old.spec cc.spec cc.spec.dcNames.length →
        ∀ position dcName, cc.spec.FirstAt position dcName → dcName ∈ old.spec.dcNames →
          CorrectedAt platform old.spec cc.spec position dcName) ∧
      (¬ LessBefore platform old.spec cc.spec cc.spec.dcNames.length →
        TopologyPutBack needUpdate cc old.spec status answers →
        ∀ dcName ∈ cc.spec.dcNames, dcName ∈ old.spec.dcNames →
          ({ cc.spec with topology := old.spec.topology }
              : CassandraClusterSpec).getDataCapacityFromDCName dcName =
            cc.spec.getDataCapacityFromDCName dcName) := by
  refine (checkNonAllowedChanges_law_iff applied returned (fun spec => ?_) (fun sound => ?_)
    not_lessBefore_of_untouched).trans (and_congr_right' (imp_congr_right fun none =>
      imp_congr_right fun _ => capacitiesCorrected_oldTopology_iff none))
  · have none : ¬ LessBefore platform old.spec cc.spec cc.spec.dcNames.length := by
      rintro ⟨_, _, less⟩
      rw [spec] at less
      exact lt_irrefl _ less
    exact ⟨CapacitiesCorrected.of_requested none, none⟩
  · have loop := checkSettings_capacities sound
    by_cases less : LessBefore platform old.spec cc.spec cc.spec.dcNames.length
    · rw [loop.corrected_iff less]
      exact ⟨fun all _ => all, fun all => all less⟩
    · exact iff_of_true (loop.corrected_of_none less) fun impossible => absurd impossible less

end Check

/-! ## Two DCs -/

def capacityPlatform : Platform :=
  { parseQuantity := fun text => { value := if text = "20Gi" then 20 else 10 }
    patchIsEmpty := fun _ _ => true
    generate := fun _ _ _ => none
    podName := "" }

def capacityAnswers : ChangeAnswers :=
  { now := 0
    order := MapOrder.sorted
    deleteStatefulSet := fun _ => .ok ()
    scaleDown :=
      { pods := fun _ _ => .ok []
        nonLocalKeyspacesInDC := fun _ _ => .ok [] } }

def capacityOld : LastApplied :=
  { metadata := { name := "demo", ns := "ns" }
    spec :=
      { nodesPerRacks := 1
        dataCapacity := "10Gi"
        topology := { dc := [{ name := "dc1", dataCapacity := "20Gi" }, { name := "dc2" }] } } }

def capacityNew (dcs : List DC) : CassandraCluster :=
  { metadata := capacityOld.metadata
    spec := { capacityOld.spec with topology := { dc := dcs } }
    status := { phase := .running }
    annotation := .config capacityOld }

def grownCapacity : CassandraCluster :=
  capacityNew
    [{ name := "dc1", dataCapacity := "20Gi" }, { name := "dc2", dataCapacity := "20Gi" }]

/-- `dc1` gets less and stands where `dc2` stood. -/
def swappedCapacity : CassandraCluster :=
  capacityNew [{ name := "dc2" }, { name := "dc1", dataCapacity := "10Gi" }]

theorem grownCapacity_kept :
    CapacitiesCorrected capacityPlatform capacityOld.spec grownCapacity.spec
      (checkNonAllowedChanges capacityPlatform false grownCapacity grownCapacity.status
        capacityAnswers).spec := by
  refine (checkNonAllowedChanges_capacities_iff _ _ _ _ _ capacityOld rfl
    (by decide +kernel)).mpr ⟨fun less => ?_, fun _ putBack => ?_⟩
  · exact absurd less (by decide +kernel)
  · obtain ⟨_, _, _, ⟨changed, _⟩ | ⟨_, dcName, rackName, emptied, _⟩⟩ := putBack
    · exact absurd changed (by decide +kernel)
    · have none : emptiedRack grownCapacity.spec = none := by decide +kernel
      rw [none] at emptied
      cases emptied

/-- What is put back to `dc1` is the capacity `dc2` had. -/
theorem swappedCapacity_shrinks :
    let check := checkNonAllowedChanges capacityPlatform false swappedCapacity
      swappedCapacity.status capacityAnswers
    check.fault = false ∧
      ¬ CapacitiesCorrected capacityPlatform capacityOld.spec swappedCapacity.spec check.spec := by
  refine ⟨by decide +kernel, fun corrected => ?_⟩
  have enough := (corrected "dc1" (by decide) (by decide)).1
  exact enough (by decide +kernel)

end Casskop
