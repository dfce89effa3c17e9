import Casskop.Validation.SettingsRecord
import Casskop.Validation.TopologyEdits

/-!
# Refused changes in the last-applied spec

However `CheckNonAllowedChanges` ends, the object is recorded as the last-applied spec.  The
tests return at the first refusal, so an edit that combines a refused change with another one
may be recorded with the other one unchecked, and what is put back by position may belong to
another DC.
-/

namespace Casskop

/-! ## Node counts -/

/-- The DC declares a count of 0. -/
def CassandraClusterSpec.DeclaresNone (spec : CassandraClusterSpec) (dcName : String) : Prop :=
  spec.dcNodes[spec.dcNames.idxOf dcName]? = some (some 0)

section Nodes

variable {spec : CassandraClusterSpec}

theorem getDCNodesPerRacksFromName_eq (spec : CassandraClusterSpec) (dcName : String) :
    spec.getDCNodesPerRacksFromName dcName =
      match spec.dcNodes[spec.dcNames.idxOf dcName]? with
      | some own => (true, own.getD spec.nodesPerRacks)
      | none => (false, spec.nodesPerRacks) := by
  have flipped : (fun dc : DC => dcName == dc.name) = fun dc => dc.name == dcName :=
    funext fun dc => BEq.comm
  unfold CassandraClusterSpec.getDCNodesPerRacksFromName CassandraClusterSpec.dcNodes
    CassandraClusterSpec.dcNames
  rw [flipped, find?_dc_eq, List.getElem?_map]
  cases spec.topology.dc[(spec.topology.dc.map DC.name).idxOf dcName]? <;> rfl

/-- Under a global count that is not 0, an empty DC declares it. -/
theorem getDCNodesPerRacksFromName_zero_iff (nodes : spec.nodesPerRacks ≠ 0) (dcName : String) :
    spec.getDCNodesPerRacksFromName dcName = (true, 0) ↔ spec.DeclaresNone dcName := by
  unfold CassandraClusterSpec.DeclaresNone
  rw [getDCNodesPerRacksFromName_eq]
  cases spec.dcNodes[spec.dcNames.idxOf dcName]? with
  | none => simp
  | some own =>
    cases own with
    | none => simp [nodes]
    | some count => simp

theorem mem_dcNames_of_nodes {dcName : String} {nodes : Int}
    (counted : spec.getDCNodesPerRacksFromName dcName = (true, nodes)) : dcName ∈ spec.dcNames := by
  rw [getDCNodesPerRacksFromName_eq] at counted
  split at counted
  · rename_i own stands
    have inside := (List.getElem?_eq_some_iff.mp stands).1
    unfold CassandraClusterSpec.dcNodes at inside
    rw [List.length_map, ← List.length_map DC.name] at inside
    exact List.idxOf_lt_length_iff.mp inside
  · cases counted

end Nodes

/-! ## What may not be recorded -/

/-- The spec, recorded over the old one, takes in no change that is to be refused; `accepted`
are the DCs that may be emptied. -/
structure AbsorbsNothing (platform : Platform) (accepted : String → Prop)
    (oldSpec recorded : CassandraClusterSpec) : Prop where
  declared : ∀ dcName nodes, oldSpec.getDCNodesPerRacksFromName dcName = (true, nodes) →
    0 < nodes → dcName ∈ recorded.dcNames
  populated : ∀ dcName nodes, oldSpec.getDCNodesPerRacksFromName dcName = (true, nodes) →
    nodes ≠ 0 → recorded.getDCNodesPerRacksFromName dcName = (true, 0) → accepted dcName
  capacities : ∀ dcName ∈ recorded.dcNames, dcName ∈ oldSpec.dcNames →
    ¬ AsksForLess platform oldSpec recorded dcName
  classes : ∀ dcName ∈ recorded.dcNames, dcName ∈ oldSpec.dcNames →
    recorded.getDataStorageClassFromDCName dcName = oldSpec.getDataStorageClassFromDCName dcName
  nodes : recorded.nodesPerRacks ≠ 0

variable {platform : Platform}

theorem AbsorbsNothing.refl {accepted : String → Prop} {spec : CassandraClusterSpec}
    (nodes : spec.nodesPerRacks ≠ 0) : AbsorbsNothing platform accepted spec spec := by
  refine ⟨fun dcName count counted some => ?_, fun dcName count counted some none => ?_,
    fun _ _ _ => lt_irrefl _, fun _ _ _ => rfl, nodes⟩
  · exact mem_dcNames_of_nodes counted
  · exact absurd (congrArg Prod.snd (counted.symm.trans none)) some

variable {oldSpec : CassandraClusterSpec}

theorem AbsorbsNothing.mono {accepted accepted' : String → Prop} {recorded : CassandraClusterSpec}
    (absorbs : AbsorbsNothing platform accepted oldSpec recorded)
    (implies : ∀ dcName, accepted dcName → accepted' dcName) :
    AbsorbsNothing platform accepted' oldSpec recorded :=
  ⟨absorbs.declared,
    fun dcName count old some none => implies dcName (absorbs.populated dcName count old some none),
    absorbs.capacities, absorbs.classes, absorbs.nodes⟩

/-! ## The part behind the settings -/

section Edit

variable (platform : Platform) (needUpdate : Bool) (cc : CassandraCluster)
  (oldSpec : CassandraClusterSpec) (answers : ChangeAnswers)

/-- The topology is refused, or a DC may not be emptied. -/
def TopologyComesBack : Prop :=
  EditRefused cc oldSpec ∨
    KeepsRacks cc oldSpec ∧ ScaleDownStopped cc.spec answers.scaleDown

/-- `CheckNonAllowedScaleDown` is asked about the DC and lets it go. -/
structure ScaleDownAccepted (dcName : String) : Prop where
  settings : SettingsAccepted platform needUpdate oldSpec cc.spec
  topology : KeepsRacks cc oldSpec
  asked : ∃ rackName, emptiedRack cc.spec = some (dcName, rackName)
  accepted : (checkNonAllowedScaleDown cc.spec oldSpec answers.scaleDown).refused = false

/-- The edit can be recorded, whatever is done to it: DCs with nodes that are not put back
are still declared, and empty only if that was accepted; what is put back of the settings is
right about every DC, and so are the global settings under an old topology. -/
structure EditContained : Prop where
  declared : (SettingsAccepted platform needUpdate oldSpec cc.spec →
      ¬ TopologyComesBack cc oldSpec answers) →
    ∀ dcName nodes, oldSpec.getDCNodesPerRacksFromName dcName = (true, nodes) → 0 < nodes →
      dcName ∈ cc.spec.dcNames
  emptied : (SettingsAccepted platform needUpdate oldSpec cc.spec →
      ¬ TopologyComesBack cc oldSpec answers) →
    ∀ dcName nodes, oldSpec.getDCNodesPerRacksFromName dcName = (true, nodes) → nodes ≠ 0 →
      cc.spec.DeclaresNone dcName →
      ScaleDownAccepted platform needUpdate cc oldSpec answers dcName
  settings : ¬ SettingsAccepted platform needUpdate oldSpec cc.spec →
    ∀ position dcName, cc.spec.FirstAt position dcName → dcName ∈ oldSpec.dcNames →
      CapacityStaysAt platform oldSpec cc.spec position dcName ∧
        ClassStaysAt platform oldSpec cc.spec position dcName
  oldTopology : SettingsAccepted platform needUpdate oldSpec cc.spec →
    TopologyComesBack cc oldSpec answers → ∀ position dcName, oldSpec.FirstAt position dcName →
      oldSpec.dcCapacities[position]? = some "" →
      ¬ SmallerCapacity platform cc.spec.dataCapacity oldSpec.dataCapacity ∧
        cc.spec.dataStorageClass = oldSpec.dataStorageClass

end Edit

variable {needUpdate : Bool} {cc : CassandraCluster} {answers : ChangeAnswers}

section Leaves

variable {status : CassandraClusterStatus}

theorem not_comesBack_of_removes (removes : RemovesDC cc oldSpec)
    (fixed : ¬ KeepsRacks cc oldSpec) : ¬ TopologyComesBack cc oldSpec answers := by
  rintro (refused | ⟨keeps, _⟩)
  · exact removes.not_refused refused
  · exact fixed keeps

/-- The check of the topology leaves the spec or puts the old topology back, also when it
faults. -/
theorem checkTopologyAndScaleDown_leaves (cc : CassandraCluster) (oldSpec : CassandraClusterSpec)
    (status : CassandraClusterStatus) (answers : ChangeAnswers) :
    (TopologyComesBack cc oldSpec answers →
      (checkTopologyAndScaleDown cc oldSpec status answers).spec =
        { cc.spec with topology := oldSpec.topology }) ∧
    (¬ TopologyComesBack cc oldSpec answers →
      (checkTopologyAndScaleDown cc oldSpec status answers).spec = cc.spec) := by
  unfold checkTopologyAndScaleDown
  dsimp only
  generalize answers.order cc.status.cassandraRackStatus = order
  have refused := checkTopologyChanges_refused_iff cc status oldSpec order
  have unchanged := checkTopologyChanges_unchanged_iff cc status oldSpec order
  have faultless := checkTopologyChanges_faultless_iff cc status oldSpec order
  split
  · rename_i faulty
    have removes : RemovesDC cc oldSpec := by
      by_contra keeps
      rw [faultless.mpr fun removes => absurd removes keeps] at faulty
      cases faulty
    have changed : ¬ KeepsRacks cc oldSpec := by
      intro keeps
      rw [(checkTopologyChanges_unchanged cc status oldSpec _ (unchanged.mpr keeps)).2] at faulty
      cases faulty
    exact ⟨fun back => absurd back (not_comesBack_of_removes removes changed), fun _ => rfl⟩
  split
  · rename_i changed
    have fixed : ¬ KeepsRacks cc oldSpec := by
      intro keeps
      rw [unchanged.mpr keeps] at changed
      cases changed
    constructor
    · rintro (edit | ⟨keeps, _⟩)
      · rw [if_pos (refused.mpr edit)]
      · exact absurd keeps fixed
    · intro stays
      rw [if_neg fun corrects => stays (.inl (refused.mp corrects))]
  · rename_i same
    have keeps := unchanged.mp (Bool.eq_false_iff.mpr same)
    obtain ⟨stopped, goesOn⟩ := checkScaleDownAndResources_spec cc.spec oldSpec
      (checkTopologyChanges cc status oldSpec order).status answers
    constructor
    · rintro (edit | ⟨_, stops⟩)
      · exact absurd edit keeps.not_refused
      · exact stopped stops
    · intro stays
      exact goesOn fun stops => stays (.inr ⟨keeps, stops⟩)

end Leaves

/-! ## The whole check -/

section Check

theorem absorbsNothing_settings_iff (nodes : oldSpec.nodesPerRacks ≠ 0)
    (refused : ¬ SettingsAccepted platform needUpdate oldSpec cc.spec) :
    AbsorbsNothing platform (ScaleDownAccepted platform needUpdate cc oldSpec answers) oldSpec
        (checkSettings platform needUpdate cc.spec oldSpec).spec ↔
      EditContained platform needUpdate cc oldSpec answers := by
  have left := @checkSettings_left platform oldSpec cc.spec needUpdate
  obtain ⟨own, shared⟩ := @checkSettings_nodes platform oldSpec cc.spec needUpdate
  generalize (checkSettings platform needUpdate cc.spec oldSpec).spec = final at *
  have counted : final.nodesPerRacks ≠ 0 := by
    rw [shared]
    split
    · exact nodes
    · rename_i set
      exact set
  have empty : ∀ dcName, final.getDCNodesPerRacksFromName dcName = (true, 0) ↔
      cc.spec.DeclaresNone dcName := by
    intro dcName
    rw [getDCNodesPerRacksFromName_zero_iff counted]
    unfold CassandraClusterSpec.DeclaresNone
    rw [own, left.names]
  constructor
  · intro absorbs
    refine ⟨fun _ dcName count old some => ?_, fun _ dcName count old some none => ?_,
      fun _ position dcName first known => ?_, fun accepted => absurd accepted refused⟩
    · rw [← left.names]
      exact absorbs.declared dcName count old some
    · exact absorbs.populated dcName count old some ((empty dcName).mpr none)
    · have member : dcName ∈ final.dcNames := by
        rw [left.names]
        exact List.mem_of_getElem? first.1
      exact ⟨(left.capacityStaysAt_iff first).mp (absorbs.capacities dcName member known),
        (left.classStaysAt_iff first).mp (absorbs.classes dcName member known)⟩
  · intro contained
    have unreached : SettingsAccepted platform needUpdate oldSpec cc.spec →
        ¬ TopologyComesBack cc oldSpec answers := fun accepted => absurd accepted refused
    refine ⟨fun dcName count old some => ?_, fun dcName count old some none => ?_,
      fun dcName member known => ?_, fun dcName member known => ?_, counted⟩
    · rw [left.names]
      exact contained.declared unreached dcName count old some
    · exact contained.emptied unreached dcName count old some ((empty dcName).mp none)
    · rw [left.names] at member
      obtain ⟨position, first⟩ := CassandraClusterSpec.exists_firstAt member
      exact (left.capacityStaysAt_iff first).mpr
        (contained.settings refused position dcName first known).1
    · rw [left.names] at member
      obtain ⟨position, first⟩ := CassandraClusterSpec.exists_firstAt member
      exact (left.classStaysAt_iff first).mpr
        (contained.settings refused position dcName first known).2

theorem absorbsNothing_edit_iff (accepted : SettingsAccepted platform needUpdate oldSpec cc.spec)
    (stays : ¬ TopologyComesBack cc oldSpec answers) :
    AbsorbsNothing platform (ScaleDownAccepted platform needUpdate cc oldSpec answers) oldSpec
        cc.spec ↔ EditContained platform needUpdate cc oldSpec answers := by
  have each : ∀ dcName ∈ cc.spec.dcNames, ¬ AsksForLess platform oldSpec cc.spec dcName ∧
      cc.spec.getDataStorageClassFromDCName dcName =
        oldSpec.getDataStorageClassFromDCName dcName := by
    intro dcName member
    obtain ⟨position, inside, named⟩ := List.mem_iff_getElem.mp member
    have here := CassandraClusterSpec.getDCName_of_getElem?
      ((List.getElem?_eq_getElem inside).trans (congrArg some named))
    rw [← here]
    exact accepted.each position (cc.spec.getDCSize_eq ▸ inside)
  constructor
  · intro absorbs
    refine ⟨fun _ => absorbs.declared, fun _ dcName count old some none => ?_,
      fun refused => absurd accepted refused, fun _ back => absurd back stays⟩
    exact absorbs.populated dcName count old some
      ((getDCNodesPerRacksFromName_zero_iff accepted.nodes dcName).mpr none)
  · intro contained
    refine ⟨contained.declared fun _ => stays, fun dcName count old some none => ?_,
      fun dcName member _ => (each dcName member).1, fun dcName member _ => (each dcName member).2,
      accepted.nodes⟩
    exact contained.emptied (fun _ => stays) dcName count old some
      ((getDCNodesPerRacksFromName_zero_iff accepted.nodes dcName).mp none)

theorem absorbsNothing_oldTopology_iff
    (accepted : SettingsAccepted platform needUpdate oldSpec cc.spec)
    (back : TopologyComesBack cc oldSpec answers) :
    AbsorbsNothing platform (ScaleDownAccepted platform needUpdate cc oldSpec answers) oldSpec
        { cc.spec with topology := oldSpec.topology } ↔
      EditContained platform needUpdate cc oldSpec answers := by
  -- A DC with a capacity of its own does not look at the global settings.
  have stays : ∀ {position dcName capacity}, oldSpec.FirstAt position dcName →
      oldSpec.dcCapacities[position]? = some capacity →
      ((¬ AsksForLess platform oldSpec { cc.spec with topology := oldSpec.topology } dcName ∧
          ({ cc.spec with topology := oldSpec.topology }
            : CassandraClusterSpec).getDataStorageClassFromDCName dcName =
              oldSpec.getDataStorageClassFromDCName dcName) ↔
        (capacity = "" → ¬ SmallerCapacity platform cc.spec.dataCapacity oldSpec.dataCapacity ∧
          cc.spec.dataStorageClass = oldSpec.dataStorageClass)) := by
    intro position dcName capacity first own
    have first' : ({ cc.spec with topology := oldSpec.topology }
      : CassandraClusterSpec).FirstAt position dcName := first
    obtain ⟨dc, found, stands⟩ := getElem?_idxOf_dcNames (List.mem_of_getElem? first.1)
    have ownCapacity : dc.dataCapacity = capacity := by
      unfold CassandraClusterSpec.dcCapacities at own
      rw [first.idxOf] at stands
      rw [List.getElem?_map, stands] at own
      exact Option.some.inj own
    unfold AsksForLess CassandraClusterSpec.getDataStorageClassFromDCName
    rw [first.capacity own, first'.capacity own, found]
    dsimp only
    rw [ownCapacity]
    by_cases unset : capacity = ""
    · simp [unset]
    · simp [unset, SmallerCapacity]
  constructor
  · intro absorbs
    refine ⟨fun kept => absurd back (kept accepted), fun kept => absurd back (kept accepted),
      fun refused => absurd accepted refused, fun _ _ position dcName first own => ?_⟩
    have known := List.mem_of_getElem? first.1
    exact (stays first own).mp
      ⟨absorbs.capacities dcName known known, absorbs.classes dcName known known⟩ rfl
  · intro contained
    have both : ∀ dcName ∈ oldSpec.dcNames,
        ¬ AsksForLess platform oldSpec { cc.spec with topology := oldSpec.topology } dcName ∧
          ({ cc.spec with topology := oldSpec.topology }
            : CassandraClusterSpec).getDataStorageClassFromDCName dcName =
              oldSpec.getDataStorageClassFromDCName dcName := by
      intro dcName known
      obtain ⟨position, first⟩ := CassandraClusterSpec.exists_firstAt known
      obtain ⟨capacity, own⟩ := first.exists_capacity
      refine (stays first own).mpr fun unset => ?_
      exact contained.oldTopology accepted back position dcName first (unset ▸ own)
    have declared : ∀ dcName nodes, oldSpec.getDCNodesPerRacksFromName dcName = (true, nodes) →
        0 < nodes → dcName ∈ oldSpec.dcNames := fun _ _ counted _ => mem_dcNames_of_nodes counted
    refine ⟨declared, fun dcName count old some none => ?_,
      fun dcName _ known => (both dcName known).1, fun dcName _ known => (both dcName known).2,
      accepted.nodes⟩
    have empty : oldSpec.DeclaresNone dcName :=
      (@getDCNodesPerRacksFromName_zero_iff { cc.spec with topology := oldSpec.topology }
        accepted.nodes dcName).mp none
    unfold CassandraClusterSpec.DeclaresNone at empty
    rw [getDCNodesPerRacksFromName_eq, empty] at old
    exact absurd (congrArg Prod.snd old).symm some

theorem editContained_of_same (same : cc.spec = oldSpec) (nodes : oldSpec.nodesPerRacks ≠ 0) :
    EditContained platform needUpdate cc oldSpec answers := by
  subst same
  have accepted : SettingsAccepted platform false cc.spec cc.spec :=
    ⟨rfl, nodes, fun _ _ => ⟨lt_irrefl _, rfl⟩⟩
  have left := @checkSettings_left platform cc.spec cc.spec false
  rw [checkSettings_unchanged platform false cc.spec cc.spec (settingsAccepted_iff.mp accepted)]
    at left
  refine ⟨fun _ dcName count counted some => mem_dcNames_of_nodes counted,
    fun _ dcName count counted some none => ?_, fun _ position dcName first _ => ?_,
    fun _ _ _ _ _ _ => ⟨lt_irrefl _, rfl⟩⟩
  · rw [(getDCNodesPerRacksFromName_zero_iff nodes dcName).mpr none] at counted
    exact absurd (congrArg Prod.snd counted).symm some
  · exact ⟨(left.capacityStaysAt_iff first).mp (lt_irrefl _), (left.classStaysAt_iff first).mp rfl⟩

/-- What is recorded takes in no refused change exactly when the edit is contained. -/
theorem checkNonAllowedChanges_absorbsNothing_iff {old : LastApplied}
    (applied : cc.annotation = .config old) (nodes : old.spec.nodesPerRacks ≠ 0)
    (status : CassandraClusterStatus) :
    AbsorbsNothing platform (ScaleDownAccepted platform needUpdate cc old.spec answers) old.spec
        (checkNonAllowedChanges platform needUpdate cc status answers).spec ↔
      EditContained platform needUpdate cc old.spec answers := by
  have editCase := checkNonAllowedChanges_case platform needUpdate cc status answers applied
  generalize checkNonAllowedChanges platform needUpdate cc status answers = check at editCase ⊢
  cases editCase with
  | same same =>
    have spec : cc.spec = old.spec := congrArg LastApplied.spec same
    refine iff_of_true ?_ (editContained_of_same spec nodes)
    rw [spec]
    exact .refl nodes
  | faulty _ faulty =>
    exact absorbsNothing_settings_iff nodes fun accepted =>
      settingsAccepted_iff.mp accepted (Or.inr faulty)
  | corrected _ _ corrects =>
    exact absorbsNothing_settings_iff nodes fun accepted =>
      settingsAccepted_iff.mp accepted (Or.inl corrects)
  | accepted _ untouched =>
    have accepted := settingsAccepted_iff.mpr untouched
    obtain ⟨comesBack, kept⟩ := checkTopologyAndScaleDown_leaves cc old.spec status answers
    by_cases back : TopologyComesBack cc old.spec answers
    · rw [comesBack back]
      exact absorbsNothing_oldTopology_iff accepted back
    · rw [kept back]
      exact absorbsNothing_edit_iff accepted back

end Check

/-! ## The object the edit is made on -/

section Object

variable {cc' : CassandraCluster} (spec : cc'.spec = cc.spec) (status : cc'.status = cc.status)

include spec status

theorem KeepsRacks.congr (keeps : KeepsRacks cc oldSpec) : KeepsRacks cc' oldSpec := by
  cases cc
  cases cc'
  subst spec status
  exact ⟨keeps.topology, keeps.single, keeps.racks⟩

theorem topologyComesBack_congr :
    TopologyComesBack cc' oldSpec answers ↔ TopologyComesBack cc oldSpec answers := by
  have refused : EditRefused cc' oldSpec ↔ EditRefused cc oldSpec := by
    unfold EditRefused scaleDownRunning removedDCHasNodes
    rw [spec, status]
  have keeps : KeepsRacks cc' oldSpec ↔ KeepsRacks cc oldSpec :=
    ⟨fun keeps => keeps.congr spec.symm status.symm, fun keeps => keeps.congr spec status⟩
  unfold TopologyComesBack
  rw [refused, keeps, spec]

theorem ScaleDownAccepted.congr {dcName : String}
    (accepted : ScaleDownAccepted platform needUpdate cc oldSpec answers dcName) :
    ScaleDownAccepted platform needUpdate cc' oldSpec answers dcName := by
  refine ⟨?_, accepted.topology.congr spec status, ?_, ?_⟩
  · rw [spec]
    exact accepted.settings
  · rw [spec]
    exact accepted.asked
  · rw [spec]
    exact accepted.accepted

theorem EditContained.congr (contained : EditContained platform needUpdate cc oldSpec answers) :
    EditContained platform needUpdate cc' oldSpec answers := by
  have back := @topologyComesBack_congr oldSpec cc answers cc' spec status
  constructor
  · rw [back, spec]
    exact contained.declared
  · rw [back, spec]
    exact fun kept dcName count old some none =>
      (contained.emptied kept dcName count old some none).congr spec status
  · rw [spec]
    exact contained.settings
  · rw [back, spec]
    exact contained.oldTopology

end Object

end Casskop
