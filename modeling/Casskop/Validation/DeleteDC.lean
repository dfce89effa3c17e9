import Casskop.Validation.Topology

/-!
# What deleting a DC deletes

`deleteDCObjects` deletes the racks of the status that `InitCassandraRackList`
does not recreate from the new topology.  A DC declared without racks replaces
the topology that function is looping over, so the recreated list is the declared
one only up to the first such DC.
-/

namespace Casskop

/-! ## The recreated rack list -/

/-- Name of the rack `InitCassandraRackList` gives to a DC without racks. -/
def defaultRackName (dcName : String) : String :=
  getDCRackName dcName defaultCassandraRack

/-- Racks declared before the first DC without racks. -/
def racksBeforeCollapse : List DC → List String
  | [] => []
  | dc :: rest => if dc.rack.isEmpty then [] else dc.rackNames ++ racksBeforeCollapse rest

/-- Racks declared after the first DC without racks. -/
def racksAfterCollapse : List DC → List String
  | [] => []
  | dc :: rest =>
    if dc.rack.isEmpty then rest.flatMap DC.rackNames else racksAfterCollapse rest

/-- Default racks created from the first DC without racks on. -/
def defaultedRacks : List DC → List String
  | [] => []
  | dc :: rest =>
    if dc.rack.isEmpty then
      defaultRackName dc.name ::
        if rest.isEmpty then [] else [defaultRackName defaultCassandraDC]
    else defaultedRacks rest

theorem declaredRacks_iff (spec : CassandraClusterSpec) (name : String) :
    name ∈ spec.declaredRacks ↔
      name ∈ racksBeforeCollapse spec.topology.dc ∨
        name ∈ racksAfterCollapse spec.topology.dc := by
  have general : ∀ dcs : List DC, name ∈ dcs.flatMap DC.rackNames ↔
      name ∈ racksBeforeCollapse dcs ∨ name ∈ racksAfterCollapse dcs := by
    intro dcs
    induction dcs with
    | nil => simp [racksBeforeCollapse, racksAfterCollapse]
    | cons dc rest induction =>
      by_cases empty : dc.rack.isEmpty
      · have noNames : dc.rackNames = [] := by
          simpa [DC.rackNames] using empty
        simp [racksBeforeCollapse, racksAfterCollapse, empty, noNames]
      · simp only [List.flatMap_cons, List.mem_append, induction,
          racksBeforeCollapse, racksAfterCollapse, empty, Bool.false_eq_true,
          if_false, or_assoc]
  exact general spec.topology.dc

private theorem foldl_initRacks_mem (dcName : String) (rackName : Nat → String)
    (indices : List Nat) :
    ∀ (state : RackListState),
      let final := indices.foldl
        (fun acc rack =>
          { acc with
            racks := initCassandraRackStatus acc.racks dcName (rackName rack)
            nbRack := acc.nbRack + 1 })
        state
      final.spec = state.spec ∧ ∀ name, name ∈ final.racks ↔
        name ∈ state.racks ∨
          ∃ rack ∈ indices, name = getDCRackName dcName (rackName rack) := by
  induction indices with
  | nil => simp
  | cons rack rest induction =>
    intro state
    obtain ⟨sameSpec, members⟩ := induction
      { state with
        racks := initCassandraRackStatus state.racks dcName (rackName rack)
        nbRack := state.nbRack + 1 }
    refine ⟨sameSpec, fun name => ?_⟩
    rw [List.foldl_cons, members name]
    simp only [initCassandraRackStatus, Finmap.mem_insert, List.exists_mem_cons_iff]
    constructor
    · rintro ((here | before) | later)
      · exact Or.inr (Or.inl here)
      · exact Or.inl before
      · exact Or.inr (Or.inr later)
    · rintro (before | here | later)
      · exact Or.inl (Or.inr before)
      · exact Or.inl (Or.inl here)
      · exact Or.inr later

private theorem initStep_racks {state : RackListState} {index : Nat} {dc : DC}
    (found : state.spec.topology.dc[index]? = some dc) (nonempty : dc.rack.isEmpty = false) :
    (initCassandraRackListStep state index).spec = state.spec ∧
      ∀ name, name ∈ (initCassandraRackListStep state index).racks ↔
        name ∈ state.racks ∨ name ∈ dc.rackNames := by
  have size : state.spec.getRackSize index = dc.rack.length := by
    simp [CassandraClusterSpec.getRackSize, found]
  have positive : ¬ dc.rack.length < 1 := by
    cases racks : dc.rack with
    | nil => simp [racks] at nonempty
    | cons rack rest => simp
  have dcName : state.spec.getDCName index = dc.name := by
    simp [CassandraClusterSpec.getDCName, found]
  have rackName : ∀ (rack : Nat) (bound : rack < dc.rack.length),
      state.spec.getRackName index rack = dc.rack[rack].name := by
    intro rack bound
    simp [CassandraClusterSpec.getRackName, found, List.getElem?_eq_getElem bound]
  obtain ⟨sameSpec, members⟩ := foldl_initRacks_mem dc.name
    (state.spec.getRackName index) (List.range dc.rack.length) state
  simp only [initCassandraRackListStep, size, positive, if_false, dcName]
  refine ⟨sameSpec, fun name => ?_⟩
  rw [members name]
  simp only [List.mem_range, DC.rackNames, List.mem_map]
  constructor
  · rintro (before | ⟨rack, bound, equality⟩)
    · exact Or.inl before
    · rw [rackName rack bound] at equality
      exact Or.inr ⟨dc.rack[rack], List.getElem_mem bound, equality.symm⟩
  · rintro (before | ⟨rack, member, equality⟩)
    · exact Or.inl before
    · obtain ⟨position, bound, rfl⟩ := List.getElem_of_mem member
      refine Or.inr ⟨position, bound, ?_⟩
      rw [rackName position bound, equality]

private theorem initStep_collapse {state : RackListState} {index : Nat}
    (size : state.spec.getRackSize index = 0) :
    (initCassandraRackListStep state index).spec.topology.dc.length = 1 ∧
      ∀ name, name ∈ (initCassandraRackListStep state index).racks ↔
        name ∈ state.racks ∨ name = defaultRackName (state.spec.getDCName index) := by
  have none : state.spec.getRackSize index < 1 := by omega
  simp only [initCassandraRackListStep, none, if_true]
  refine ⟨rfl, fun name => ?_⟩
  simp [initCassandraRackStatus, Finmap.mem_insert, defaultRackName, or_comm]

/-- After the collapse every further position falls back to the default DC. -/
private theorem foldl_collapsed (count : Nat) :
    ∀ (start : Nat) (state : RackListState), 1 ≤ start →
      state.spec.topology.dc.length = 1 →
      ∀ name, name ∈ ((List.range' start count).foldl initCassandraRackListStep
          state).racks ↔
        name ∈ state.racks ∨
          (0 < count ∧ name = defaultRackName defaultCassandraDC) := by
  induction count with
  | zero => simp
  | succ count induction =>
    intro start state beyond single name
    have absent : state.spec.topology.dc[start]? = none := List.getElem?_eq_none (by omega)
    have dcName : state.spec.getDCName start = defaultCassandraDC := by
      simp [CassandraClusterSpec.getDCName, absent]
    have size : state.spec.getRackSize start = 0 := by
      simp [CassandraClusterSpec.getRackSize, absent]
    obtain ⟨single', members⟩ := initStep_collapse size
    rw [List.range'_succ, List.foldl_cons,
      induction (start + 1) _ (by omega) single' name, members name, dcName]
    constructor
    · rintro ((before | here) | ⟨_, here⟩)
      · exact Or.inl before
      · exact Or.inr ⟨by omega, here⟩
      · exact Or.inr ⟨by omega, here⟩
    · rintro (before | ⟨_, here⟩)
      · exact Or.inl (Or.inl before)
      · exact Or.inl (Or.inr here)

private theorem foldl_initRackList (spec : CassandraClusterSpec) (dcs : List DC) :
    ∀ (start : Nat) (state : RackListState), state.spec = spec →
      spec.topology.dc.drop start = dcs →
      ∀ name, name ∈ ((List.range' start dcs.length).foldl initCassandraRackListStep
          state).racks ↔
        name ∈ state.racks ∨ name ∈ racksBeforeCollapse dcs ∨
          name ∈ defaultedRacks dcs := by
  induction dcs with
  | nil => simp [racksBeforeCollapse, defaultedRacks]
  | cons dc rest induction =>
    intro start state sameSpec suffix name
    have found : state.spec.topology.dc[start]? = some dc := by
      rw [sameSpec, ← List.head?_drop, suffix]
      rfl
    have restSuffix : spec.topology.dc.drop (start + 1) = rest := by
      rw [← List.drop_drop, suffix]
      rfl
    rw [List.length_cons, List.range'_succ, List.foldl_cons]
    by_cases empty : dc.rack.isEmpty
    · have size : state.spec.getRackSize start = 0 := by
        simpa [CassandraClusterSpec.getRackSize, found] using empty
      have dcName : state.spec.getDCName start = dc.name := by
        simp [CassandraClusterSpec.getDCName, found]
      obtain ⟨single, members⟩ := initStep_collapse size
      rw [foldl_collapsed rest.length (start + 1) _ (by omega) single name,
        members name, dcName]
      cases rest with
      | nil => simp [racksBeforeCollapse, defaultedRacks, empty]
      | cons next others =>
        simp [racksBeforeCollapse, defaultedRacks, empty, or_assoc]
    · have nonempty : dc.rack.isEmpty = false := by simpa using empty
      obtain ⟨stepSpec, members⟩ := initStep_racks found nonempty
      rw [induction (start + 1) _ (stepSpec.trans sameSpec) restSuffix name,
        members name]
      simp [racksBeforeCollapse, defaultedRacks, nonempty, or_assoc]

/-- The default racks `InitCassandraRackList` creates on its own. -/
def addedRacks (spec : CassandraClusterSpec) : List String :=
  if spec.topology.dc.isEmpty then [defaultRackName defaultCassandraDC]
  else defaultedRacks spec.topology.dc

/-- The racks `InitCassandraRackList` creates. -/
def recreatedRacks (spec : CassandraClusterSpec) : List String :=
  racksBeforeCollapse spec.topology.dc ++ addedRacks spec

theorem mem_initCassandraRackList (spec : CassandraClusterSpec) (name : String) :
    name ∈ (initCassandraRackList spec).racks ↔ name ∈ recreatedRacks spec := by
  cases dcs : spec.topology.dc with
  | nil =>
    simp [initCassandraRackList, CassandraClusterSpec.getDCSize, dcs,
      recreatedRacks, addedRacks, racksBeforeCollapse, initCassandraRackStatus, Finmap.mem_insert,
      Finmap.notMem_empty, defaultRackName]
  | cons dc rest =>
    have notEmpty : ¬ spec.getDCSize < 1 := by
      simp [CassandraClusterSpec.getDCSize, dcs]
    have members := foldl_initRackList spec (dc :: rest) 0
      { spec := spec, racks := ∅, nbRack := 0 } rfl (by simp [dcs]) name
    simp only [initCassandraRackList, notEmpty, if_false]
    rw [CassandraClusterSpec.getDCSize, dcs, List.range_eq_range', members]
    simp [recreatedRacks, addedRacks, dcs, Finmap.notMem_empty]

/-! ## The deletions -/

private theorem lookup_foldl_erase (names : List String) :
    ∀ (racks : GoMap CassandraRackStatus) (key : String),
      (names.foldl (fun racks name => racks.erase name) racks).lookup key =
        if key ∈ names then none else racks.lookup key := by
  induction names with
  | nil => simp
  | cons name names induction =>
    intro racks key
    rw [List.foldl_cons, induction]
    by_cases same : key = name
    · subst same
      simp [Finmap.lookup_erase]
    · simp [Finmap.lookup_erase_ne same, same]

theorem deleteRackObjects_subset (name : String) (racks : List String) :
    ∀ rack ∈ (deleteRackObjects name racks).statefulSets, rack ∈ racks := by
  induction racks with
  | nil => simp [deleteRackObjects]
  | cons head tail induction =>
    intro rack member
    cases split : getDCNameFromDCRackName head with
    | none =>
      simp only [deleteRackObjects, split, List.mem_singleton] at member
      simp [member]
    | some dcName =>
      simp only [deleteRackObjects, split, List.mem_cons] at member
      rcases member with here | later
      · simp [here]
      · exact List.mem_cons_of_mem _ (induction rack later)

/-- Every rack of the list loses its StatefulSet exactly when the loop survives
every name it splits before the last. -/
theorem deleteRackObjects_complete_iff (name : String) {racks : List String} (nodup : racks.Nodup) :
    (∀ rack ∈ racks, rack ∈ (deleteRackObjects name racks).statefulSets) ↔
      ∀ rack ∈ racks.dropLast, (getDCNameFromDCRackName rack).isSome := by
  induction racks with
  | nil => simp
  | cons head tail induction =>
    obtain ⟨headFresh, tailNodup⟩ := List.nodup_cons.mp nodup
    cases tail with
    | nil =>
      cases split : getDCNameFromDCRackName head <;>
        simp [deleteRackObjects, split]
    | cons next rest =>
      rw [List.dropLast_cons_cons]
      cases split : getDCNameFromDCRackName head with
      | none =>
        have different : next ≠ head := fun same => headFresh (by simp [same])
        constructor
        · intro complete
          have member := complete next (by simp)
          simp [deleteRackObjects, split, different] at member
        · intro splittable
          have headSplits := splittable head (by simp)
          simp [split] at headSplits
      | some dcName =>
        have splitIff : (∀ rack ∈ head :: (next :: rest).dropLast,
            (getDCNameFromDCRackName rack).isSome) ↔
              ∀ rack ∈ next :: rest, rack ∈
                (deleteRackObjects name (next :: rest)).statefulSets := by
          rw [List.forall_mem_cons, induction tailNodup]
          simp [split]
        rw [splitIff]
        have members : ∀ rack, rack ∈
            (deleteRackObjects name (head :: next :: rest)).statefulSets ↔
              rack = head ∨
                rack ∈ (deleteRackObjects name (next :: rest)).statefulSets := by
          intro rack
          rw [deleteRackObjects, split]
          exact List.mem_cons
        constructor
        · intro complete rack member
          have kept := complete rack (List.mem_cons_of_mem _ member)
          rcases (members rack).mp kept with here | later
          · exact absurd (here ▸ member) headFresh
          · exact later
        · intro complete rack member
          rcases List.mem_cons.mp member with here | later
          · exact (members rack).mpr (Or.inl here)
          · exact (members rack).mpr (Or.inr (complete rack later))

section Deletion

variable (cc : CassandraCluster) (order : MapOrder cc.status.cassandraRackStatus)

theorem mem_fixCassandraRackList (name : String) :
    name ∈ fixCassandraRackList cc order ↔
      name ∈ cc.status.cassandraRackStatus ∧ name ∉ recreatedRacks cc.spec := by
  simp [fixCassandraRackList, order.mem_keys_iff, mem_initCassandraRackList]

theorem deleteDCObjects_lookup (key : String) :
    (deleteDCObjects cc cc.status order).status.cassandraRackStatus.lookup key =
      if key ∈ fixCassandraRackList cc order then none
      else cc.status.cassandraRackStatus.lookup key := by
  rw [← lookup_foldl_erase, deleteDCObjects]
  split <;> rfl

theorem deleteDCObjects_statefulSets :
    (deleteDCObjects cc cc.status order).deletion.statefulSets =
      (deleteRackObjects cc.metadata.name
        (fixCassandraRackList cc order)).statefulSets := by
  rw [deleteDCObjects]
  cases names : fixCassandraRackList cc order <;> simp [deleteRackObjects]

/-- Exactly the racks the topology does not declare lose their StatefulSet and
their status entry. -/
structure DeletesUndeclared : Prop where
  statefulSets : ∀ name,
    name ∈ (deleteDCObjects cc cc.status order).deletion.statefulSets ↔
      name ∈ cc.status.cassandraRackStatus ∧ name ∉ cc.spec.declaredRacks
  entries : ∀ name,
    (deleteDCObjects cc cc.status order).status.cassandraRackStatus.lookup name =
      if name ∈ cc.spec.declaredRacks then cc.status.cassandraRackStatus.lookup name
      else none

/-- No rack of the status is concerned by a DC declared without racks, and the
names to delete can be split at a dash. -/
structure CollapseHarmless : Prop where
  after : ∀ name ∈ cc.status.cassandraRackStatus,
    name ∈ racksAfterCollapse cc.spec.topology.dc →
      name ∈ racksBeforeCollapse cc.spec.topology.dc ∨ name ∈ addedRacks cc.spec
  added : ∀ name ∈ cc.status.cassandraRackStatus,
    name ∈ addedRacks cc.spec → name ∈ cc.spec.declaredRacks
  dashed : ∀ name ∈ (order.keys.filter (· ∉ cc.spec.declaredRacks)).dropLast,
    (getDCNameFromDCRackName name).isSome

variable {cc} in
private theorem recreated_iff_declared (harmless : CollapseHarmless cc order)
    {name : String} (member : name ∈ cc.status.cassandraRackStatus) :
    name ∈ recreatedRacks cc.spec ↔ name ∈ cc.spec.declaredRacks := by
  rw [recreatedRacks, List.mem_append, declaredRacks_iff]
  constructor
  · intro recreated
    rcases recreated with before | added
    · exact Or.inl before
    · exact (declaredRacks_iff cc.spec name).mp (harmless.added name member added)
  · intro declared
    rcases declared with before | later
    · exact Or.inl before
    · exact harmless.after name member later

private theorem fixCassandraRackList_eq
    (agree : ∀ name ∈ cc.status.cassandraRackStatus,
      name ∈ recreatedRacks cc.spec ↔ name ∈ cc.spec.declaredRacks) :
    fixCassandraRackList cc order =
      order.keys.filter (· ∉ cc.spec.declaredRacks) := by
  apply List.filter_congr
  intro name member
  have known := (order.mem_keys_iff name).mp member
  rw [decide_eq_decide, mem_initCassandraRackList, agree name known]

theorem deleteDCObjects_deletesUndeclared_iff :
    DeletesUndeclared cc order ↔ CollapseHarmless cc order := by
  have nodup : (fixCassandraRackList cc order).Nodup := order.nodup.filter _
  constructor
  · intro deletes
    -- The status entries alone show that the two rack lists agree.
    have agree : ∀ name ∈ cc.status.cassandraRackStatus,
        name ∈ recreatedRacks cc.spec ↔ name ∈ cc.spec.declaredRacks := by
      intro name member
      obtain ⟨rack, found⟩ := Finmap.mem_iff.mp member
      have entry := deletes.entries name
      have listed := mem_fixCassandraRackList cc order name
      rw [deleteDCObjects_lookup, found] at entry
      by_cases recreated : name ∈ recreatedRacks cc.spec
      · by_cases declared : name ∈ cc.spec.declaredRacks
        · simp [recreated, declared]
        · simp [listed, recreated, declared] at entry
      · by_cases declared : name ∈ cc.spec.declaredRacks
        · simp [listed, recreated, declared, member] at entry
        · simp [recreated, declared]
    have complete : ∀ name ∈ fixCassandraRackList cc order,
        name ∈ (deleteRackObjects cc.metadata.name
          (fixCassandraRackList cc order)).statefulSets := by
      intro name member
      obtain ⟨known, fresh⟩ := (mem_fixCassandraRackList cc order name).mp member
      rw [← deleteDCObjects_statefulSets, deletes.statefulSets]
      exact ⟨known, fun declared => fresh ((agree name known).mpr declared)⟩
    refine ⟨fun name member later => ?_, fun name member added => ?_, ?_⟩
    · have declared := (declaredRacks_iff cc.spec name).mpr (Or.inr later)
      exact List.mem_append.mp ((agree name member).mpr declared)
    · exact (agree name member).mp (List.mem_append_right _ added)
    · rw [← fixCassandraRackList_eq cc order agree]
      exact (deleteRackObjects_complete_iff _ nodup).mp complete
  · intro harmless
    have agree : ∀ name ∈ cc.status.cassandraRackStatus,
        name ∈ recreatedRacks cc.spec ↔ name ∈ cc.spec.declaredRacks :=
      fun name member => recreated_iff_declared order harmless member
    have complete := (deleteRackObjects_complete_iff cc.metadata.name nodup).mpr
      (fixCassandraRackList_eq cc order agree ▸ harmless.dashed)
    have undeclared : ∀ name, name ∈ fixCassandraRackList cc order ↔
        name ∈ cc.status.cassandraRackStatus ∧ name ∉ cc.spec.declaredRacks := by
      intro name
      rw [mem_fixCassandraRackList]
      exact and_congr_right fun member => not_congr (agree name member)
    refine ⟨fun name => ?_, fun name => ?_⟩
    · rw [deleteDCObjects_statefulSets, ← undeclared name]
      exact ⟨deleteRackObjects_subset _ _ name, complete name⟩
    · rw [deleteDCObjects_lookup]
      have listed := undeclared name
      by_cases declared : name ∈ cc.spec.declaredRacks
      · simp [listed, declared]
      · by_cases member : name ∈ cc.status.cassandraRackStatus
        · simp [listed, declared, member]
        · simp [declared, Finmap.lookup_eq_none.mpr member]

end Deletion

def racklessOld : CassandraClusterSpec :=
  { nodesPerRacks := 3
    topology :=
      { dc := [{ name := "dc4", rack := [{ name := "rack1" }], nodesPerRacks := some 0 },
          { name := "dc1", rack := [{ name := "rack1" }] },
          { name := "dc3", rack := [{ name := "rack1" }] }] } }

def racklessRacks : List (String × CassandraRackStatus) :=
  [("dc4-rack1", { phase := .running }), ("dc1-rack1", { phase := .running }),
    ("dc3-rack1", { phase := .running })]

/-- The edit removes `dc4` and declares a new `dc2` without racks before `dc3`. -/
def racklessCluster : CassandraCluster :=
  { metadata := { name := "demo", ns := "ns" }
    spec :=
      { nodesPerRacks := 3
        topology :=
          { dc := [{ name := "dc1", rack := [{ name := "rack1" }] },
              { name := "dc2" }, { name := "dc3", rack := [{ name := "rack1" }] }] } }
    status :=
      { phase := .running
        cassandraRackStatus := GoMap.ofList racklessRacks } }

def racklessOrder : MapOrder racklessCluster.status.cassandraRackStatus :=
  MapOrder.ofList racklessRacks (by decide)

/-- Removing `dc4` also deletes the rack of `dc3`, which is still declared. -/
theorem deleteDCObjects_deletes_declared_rack :
    "dc3-rack1" ∈ racklessCluster.spec.declaredRacks ∧
      (checkTopologyChanges racklessCluster racklessCluster.status racklessOld
        racklessOrder).deletion.statefulSets = ["dc4-rack1", "dc3-rack1"] ∧
      ¬ DeletesUndeclared racklessCluster racklessOrder := by
  refine ⟨by decide, by decide, fun deletes => ?_⟩
  have deleted : (deleteDCObjects racklessCluster racklessCluster.status
      racklessOrder).deletion.statefulSets = ["dc4-rack1", "dc3-rack1"] := by decide
  have member := deletes.statefulSets "dc3-rack1"
  rw [deleted] at member
  exact absurd (member.mp (by decide)).2 (by decide)

end Casskop
