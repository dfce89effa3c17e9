import Casskop.Api.Topology

/-!
# The racks a cluster starts with

`InitCassandraRackList` gives every rack a status and a default rack to a DC that declares
none.  It does the latter by replacing the topology that its loop runs over.
-/

namespace Casskop

/-! ## Complete topologies -/

/-- There is a DC, and every DC has racks. -/
def Topology.Complete (topology : Topology) : Prop :=
  topology.dc ≠ [] ∧ ∀ dc ∈ topology.dc, dc.rack ≠ []

/-- The topology `initTopology` leaves. -/
def Topology.single (dcName : String) : Topology :=
  { dc := [{ name := dcName, rack := [{ name := defaultCassandraRack }] }] }

theorem Topology.single_complete (dcName : String) : (Topology.single dcName).Complete := by
  constructor
  · simp [Topology.single]
  · simp [Topology.single]

theorem initCassandraRackListStep_spec (state : RackListState) (dc : Nat) :
    (initCassandraRackListStep state dc).spec =
      if state.spec.getRackSize dc < 1 then
        { state.spec with topology := .single (state.spec.getDCName dc) }
      else state.spec := by
  unfold initCassandraRackListStep
  dsimp only
  split
  · rfl
  · apply List.foldlRecOn (motive := fun acc : RackListState => acc.spec = state.spec)
    · rfl
    · intro acc holds rack _
      exact holds

variable {spec : CassandraClusterSpec}

theorem CassandraClusterSpec.getRackSize_pos_iff {dc : Nat}
    (inside : dc < spec.topology.dc.length) :
    ¬ spec.getRackSize dc < 1 ↔ (spec.topology.dc[dc]).rack ≠ [] := by
  simp [getRackSize, List.getElem?_eq_getElem inside]

/-- After `count` steps the topology has been replaced, or the first `count` DCs have
racks. -/
theorem foldl_initCassandraRackListStep_spec (spec : CassandraClusterSpec) :
    ∀ count ≤ spec.topology.dc.length,
      let reached := ((List.range count).foldl initCassandraRackListStep
        { spec := spec, racks := ∅, nbRack := 0 }).spec
      (reached = spec ∧ ∀ dc ∈ spec.topology.dc.take count, dc.rack ≠ []) ∨
        ((∃ dc ∈ spec.topology.dc, dc.rack = []) ∧
          ∃ dcName, reached = { spec with topology := .single dcName }) := by
  intro count
  induction count with
  | zero =>
    intro _
    exact Or.inl ⟨rfl, by simp⟩
  | succ count induction =>
    intro bound
    have inside : count < spec.topology.dc.length := bound
    rw [List.range_succ, List.foldl_append]
    simp only [List.foldl_cons, List.foldl_nil]
    rw [initCassandraRackListStep_spec]
    rcases induction (Nat.le_of_lt inside) with ⟨same, racked⟩ | ⟨rackless, dcName, same⟩
    · rw [same]
      by_cases here : spec.getRackSize count < 1
      · rw [if_pos here]
        refine Or.inr ⟨⟨_, List.getElem_mem inside, ?_⟩, _, rfl⟩
        by_contra racks
        exact (CassandraClusterSpec.getRackSize_pos_iff inside).mpr racks here
      · rw [if_neg here]
        refine Or.inl ⟨rfl, ?_⟩
        rw [List.take_add_one, List.getElem?_eq_getElem inside]
        intro dc member
        rcases List.mem_append.mp member with earlier | last
        · exact racked dc earlier
        · rw [List.mem_singleton.mp last]
          exact (CassandraClusterSpec.getRackSize_pos_iff inside).mp here
    · rw [same]
      refine Or.inr ⟨rackless, ?_⟩
      split
      · exact ⟨_, rfl⟩
      · exact ⟨dcName, rfl⟩

theorem initCassandraRackList_complete (complete : spec.topology.Complete) :
    (initCassandraRackList spec).spec = spec := by
  have size : ¬ spec.getDCSize < 1 := by
    simpa [CassandraClusterSpec.getDCSize] using complete.1
  unfold initCassandraRackList
  rw [if_neg size]
  rcases foldl_initCassandraRackListStep_spec spec _ le_rfl with
    ⟨same, _⟩ | ⟨⟨dc, member, rackless⟩, _⟩
  · exact same
  · exact absurd rackless (complete.2 dc member)

theorem initCassandraRackList_single (incomplete : ¬ spec.topology.Complete) :
    ∃ dcName, (initCassandraRackList spec).spec = { spec with topology := .single dcName } := by
  unfold initCassandraRackList
  by_cases empty : spec.getDCSize < 1
  · rw [if_pos empty]
    exact ⟨defaultCassandraDC, rfl⟩
  · rw [if_neg empty]
    rcases foldl_initCassandraRackListStep_spec spec _ le_rfl with ⟨_, racked⟩ | ⟨_, replaced⟩
    · rw [List.take_length] at racked
      refine absurd ⟨fun none => ?_, racked⟩ incomplete
      simp [CassandraClusterSpec.getDCSize, none] at empty
    · exact replaced

theorem initCassandraRackList_topology (spec : CassandraClusterSpec) :
    ∃ topology : Topology, topology.Complete ∧
      (initCassandraRackList spec).spec = { spec with topology := topology } := by
  by_cases complete : spec.topology.Complete
  · exact ⟨spec.topology, complete, initCassandraRackList_complete complete⟩
  · obtain ⟨dcName, replaced⟩ := initCassandraRackList_single complete
    exact ⟨.single dcName, Topology.single_complete dcName, replaced⟩

/-! ## Statuses -/

/-- The dc-rack names of a topology. -/
def CassandraClusterSpec.dcRackNames (spec : CassandraClusterSpec) : List String :=
  spec.topology.dc.flatMap fun dc => dc.rack.map fun rack => getDCRackName dc.name rack.name

/-- The racks of these names have been given a status. -/
structure RackListState.Lists (state : RackListState) (names : List String) : Prop where
  keys : ∀ name, state.racks.lookup name =
    if name ∈ names then some initialRackStatus else none
  count : state.nbRack = names.length

variable {state : RackListState} {names : List String}

theorem RackListState.Lists.add (lists : state.Lists names) (dcName rackName : String) :
    RackListState.Lists
      { state with
        racks := initCassandraRackStatus state.racks dcName rackName
        nbRack := state.nbRack + 1 }
      (names ++ [getDCRackName dcName rackName]) := by
  refine ⟨fun name => ?_, by simp [lists.count]⟩
  unfold initCassandraRackStatus
  by_cases same : name = getDCRackName dcName rackName
  · subst same
    simp
  · simp [Finmap.lookup_insert_of_ne _ same, lists.keys, same]

section Loop

theorem foldl_initCassandraRackStatus_lists (lists : state.Lists names) (dcName : String)
    (rackNames : List String) :
    (rackNames.foldl
      (fun acc rackName =>
        { acc with
          racks := initCassandraRackStatus acc.racks dcName rackName
          nbRack := acc.nbRack + 1 }) state).Lists
      (names ++ rackNames.map (getDCRackName dcName)) := by
  induction rackNames generalizing state names with
  | nil => simpa using lists
  | cons rackName rackNames induction =>
    have next := induction (lists.add dcName rackName)
    rw [List.append_assoc] at next
    exact next

theorem CassandraClusterSpec.getRackName_map (dc : Nat) (inside : dc < spec.topology.dc.length) :
    (List.range (spec.getRackSize dc)).map (spec.getRackName dc) =
      (spec.topology.dc[dc]).rack.map Rack.name := by
  refine List.ext_getElem? fun index => ?_
  simp only [getRackSize, List.getElem?_eq_getElem inside, List.getElem?_map]
  by_cases within : index < (spec.topology.dc[dc]).rack.length
  · simp [within, getRackName, List.getElem?_eq_getElem inside]
  · simp [within]

theorem initCassandraRackListStep_lists (lists : state.Lists names) {dc : Nat}
    (inside : dc < state.spec.topology.dc.length)
    (racked : (state.spec.topology.dc[dc]).rack ≠ []) :
    (initCassandraRackListStep state dc).Lists
      (names ++ (state.spec.topology.dc[dc]).rack.map fun rack =>
        getDCRackName (state.spec.topology.dc[dc]).name rack.name) := by
  have named : state.spec.getDCName dc = (state.spec.topology.dc[dc]).name := by
    simp [CassandraClusterSpec.getDCName, List.getElem?_eq_getElem inside]
  have all := foldl_initCassandraRackStatus_lists lists (state.spec.getDCName dc)
    ((List.range (state.spec.getRackSize dc)).map (state.spec.getRackName dc))
  rw [List.foldl_map, CassandraClusterSpec.getRackName_map dc inside, named, List.map_map] at all
  unfold initCassandraRackListStep
  dsimp only
  rw [if_neg ((CassandraClusterSpec.getRackSize_pos_iff inside).mpr racked), named]
  exact all

theorem initCassandraRackList_lists (complete : spec.topology.Complete) :
    (initCassandraRackList spec).Lists spec.dcRackNames := by
  have steps : ∀ count ≤ spec.topology.dc.length,
      let reached := (List.range count).foldl initCassandraRackListStep
        { spec := spec, racks := ∅, nbRack := 0 }
      reached.spec = spec ∧ reached.Lists ((spec.topology.dc.take count).flatMap fun dc =>
        dc.rack.map fun rack => getDCRackName dc.name rack.name) := by
    intro count
    induction count with
    | zero =>
      intro _
      exact ⟨rfl, fun name => by simp, rfl⟩
    | succ count induction =>
      intro bound
      have inside : count < spec.topology.dc.length := bound
      obtain ⟨same, lists⟩ := induction (Nat.le_of_lt inside)
      have racked := complete.2 _ (List.getElem_mem inside)
      rw [List.range_succ, List.foldl_append]
      simp only [List.foldl_cons, List.foldl_nil]
      generalize (List.range count).foldl initCassandraRackListStep
        { spec := spec, racks := ∅, nbRack := 0 } = reached at same lists
      subst same
      refine ⟨?_, ?_⟩
      · rw [initCassandraRackListStep_spec,
          if_neg ((CassandraClusterSpec.getRackSize_pos_iff inside).mpr racked)]
      · rw [List.take_add_one, List.getElem?_eq_getElem inside, List.flatMap_append]
        simpa using initCassandraRackListStep_lists lists inside racked
  have size : ¬ spec.getDCSize < 1 := by
    simpa [CassandraClusterSpec.getDCSize] using complete.1
  have all := (steps _ le_rfl).2
  rw [List.take_length] at all
  unfold initCassandraRackList
  rw [if_neg size]
  exact all

end Loop

/-! ## Nothing is lost -/

/-- The DC with the default rack, if it declares none. -/
def DC.completed (dc : DC) : DC :=
  if dc.rack = [] then { dc with rack := [{ name := defaultCassandraRack }] } else dc

theorem DC.completed_name (dc : DC) : dc.completed.name = dc.name := by
  unfold DC.completed
  split <;> rfl

/-- Every declared DC is in the topology, with the default rack if it had none, and the
statuses are those of new racks, one for each rack of the topology. -/
structure LosesNothing (spec : CassandraClusterSpec) (result : RackListState) : Prop where
  declared : ∀ dc ∈ spec.topology.dc, dc.completed ∈ result.spec.topology.dc
  keys : ∀ name, result.racks.lookup name =
    if name ∈ result.spec.dcRackNames then some initialRackStatus else none
  count : result.nbRack = result.racks.keys.card

section Lost

theorem RackListState.Lists.keys_eq (lists : state.Lists names) :
    state.racks.keys = names.toFinset := by
  ext name
  rw [Finmap.mem_keys, ← Finmap.lookup_isSome, lists.keys, List.mem_toFinset]
  by_cases member : name ∈ names <;> simp [member]

/-- With racks everywhere only a name that occurs twice is counted wrongly. -/
theorem losesNothing_complete_iff (complete : spec.topology.Complete) :
    LosesNothing spec (initCassandraRackList spec) ↔ spec.dcRackNames.Nodup := by
  have lists := initCassandraRackList_lists complete
  have same := initCassandraRackList_complete complete
  constructor
  · rintro ⟨_, _, count⟩
    rw [lists.count, lists.keys_eq] at count
    exact Multiset.toFinset_card_eq_card_iff_nodup.mp count.symm
  · intro distinct
    refine ⟨fun dc member => ?_, ?_, ?_⟩
    · rw [same]
      unfold DC.completed
      rw [if_neg (complete.2 dc member)]
      exact member
    · rw [same]
      exact lists.keys
    · rw [lists.count, lists.keys_eq, List.toFinset_card_of_nodup distinct]

theorem single_keys (dcName name : String) :
    (initCassandraRackStatus ∅ dcName defaultCassandraRack).lookup name =
      if name ∈ CassandraClusterSpec.dcRackNames { spec with topology := .single dcName } then
        some initialRackStatus
      else none := by
  unfold initCassandraRackStatus
  by_cases here : name = getDCRackName dcName defaultCassandraRack
  · subst here
    simp [CassandraClusterSpec.dcRackNames, Topology.single]
  · simp [here, CassandraClusterSpec.dcRackNames, Topology.single, Finmap.lookup_insert_of_ne]

theorem single_count (dcName : String) :
    1 = (initCassandraRackStatus ∅ dcName defaultCassandraRack).keys.card := rfl

theorem losesNothing_empty (empty : spec.topology.dc = []) :
    LosesNothing spec (initCassandraRackList spec) := by
  have result : initCassandraRackList spec =
      { spec := { spec with topology := .single defaultCassandraDC }
        racks := initCassandraRackStatus ∅ defaultCassandraDC defaultCassandraRack
        nbRack := 1 } := by
    unfold initCassandraRackList
    rw [if_pos (by simp [CassandraClusterSpec.getDCSize, empty])]
    rfl
  rw [result]
  exact ⟨by simp [empty], single_keys defaultCassandraDC, single_count defaultCassandraDC⟩

theorem losesNothing_single (dcName : String) (same : spec.topology.dc = [{ name := dcName }]) :
    LosesNothing spec (initCassandraRackList spec) := by
  have result : initCassandraRackList spec =
      { spec := { spec with topology := .single dcName }
        racks := initCassandraRackStatus ∅ dcName defaultCassandraRack
        nbRack := 1 } := by
    simp [initCassandraRackList, initCassandraRackListStep, CassandraClusterSpec.getDCSize,
      CassandraClusterSpec.getRackSize, CassandraClusterSpec.getDCName, same,
      CassandraClusterSpec.initTopology, Topology.single]
  rw [result]
  refine ⟨fun dc member => ?_, single_keys dcName, single_count dcName⟩
  rw [same, List.mem_singleton] at member
  subst member
  exact List.mem_singleton.mpr rfl

/-- A topology that is replaced was one DC with nothing but its name. -/
theorem LosesNothing.only (incomplete : ¬ spec.topology.Complete) (declares : spec.topology.dc ≠ [])
    (distinct : (spec.topology.dc.map DC.name).Nodup)
    (lossless : LosesNothing spec (initCassandraRackList spec)) :
    ∃ dcName, spec.topology.dc = [{ name := dcName }] := by
  obtain ⟨replacing, replaced⟩ := initCassandraRackList_single incomplete
  have only : ∀ dc ∈ spec.topology.dc,
      dc.completed = { name := replacing, rack := [{ name := defaultCassandraRack }] } := by
    intro dc member
    have kept := lossless.declared dc member
    rw [replaced] at kept
    exact List.mem_singleton.mp kept
  have named : ∀ dc ∈ spec.topology.dc, dc.name = replacing := by
    intro dc member
    have name := congrArg DC.name (only dc member)
    rw [DC.completed_name] at name
    exact name
  -- The names are all the same and all different, so there is one.
  match dcs : spec.topology.dc, declares with
  | first :: rest, _ =>
    cases rest with
    | cons second others =>
      rw [dcs] at named distinct
      have same := (named first List.mem_cons_self).trans
        (named second (List.mem_cons_of_mem _ List.mem_cons_self)).symm
      simp [same] at distinct
    | nil =>
      rw [dcs] at only
      have rackless : first.rack = [] := by
        by_contra racks
        refine incomplete ⟨declares, fun dc member => ?_⟩
        rw [dcs, List.mem_singleton] at member
        exact member ▸ racks
      have whole := only first List.mem_cons_self
      unfold DC.completed at whole
      rw [if_pos rackless] at whole
      refine ⟨replacing, ?_⟩
      obtain ⟨name, labels, config, rack, nodes, capacity, storageClass, resources⟩ := first
      simp_all

end Lost

/-- Nothing is lost when every DC has racks and no name of a rack occurs twice, or when the
only DC has nothing but its name. -/
theorem initCassandraRackList_losesNothing_iff (spec : CassandraClusterSpec)
    (distinct : (spec.topology.dc.map DC.name).Nodup) :
    LosesNothing spec (initCassandraRackList spec) ↔
      ((∀ dc ∈ spec.topology.dc, dc.rack ≠ []) ∧ spec.dcRackNames.Nodup) ∨
        ∃ dcName, spec.topology.dc = [{ name := dcName }] := by
  by_cases complete : spec.topology.Complete
  · rw [losesNothing_complete_iff complete]
    refine ⟨fun names => Or.inl ⟨complete.2, names⟩, ?_⟩
    rintro (⟨_, names⟩ | ⟨dcName, same⟩)
    · exact names
    · exact absurd rfl (complete.2 { name := dcName } (by simp [same]))
  · by_cases empty : spec.topology.dc = []
    · refine ⟨fun _ => Or.inl ?_, fun _ => losesNothing_empty empty⟩
      simp [empty, CassandraClusterSpec.dcRackNames]
    · constructor
      · exact fun lossless => Or.inr (lossless.only complete empty distinct)
      · rintro (⟨racked, _⟩ | ⟨dcName, same⟩)
        · exact absurd ⟨empty, racked⟩ complete
        · exact losesNothing_single dcName same

def racklessSecond : CassandraClusterSpec :=
  { topology :=
      { dc := [
          { name := "dc1"
            nodesPerRacks := some 3
            labels := [("zone", "a")]
            rack := [{ name := "rack1" }, { name := "rack2" }] },
          { name := "dc2" }] } }

theorem initCassandraRackList_racklessSecond :
    LosesNothing racklessSecond (initCassandraRackList racklessSecond) ↔
      ((∀ dc ∈ racklessSecond.topology.dc, dc.rack ≠ []) ∧ racklessSecond.dcRackNames.Nodup) ∨
        ∃ dcName, racklessSecond.topology.dc = [{ name := dcName }] :=
  initCassandraRackList_losesNothing_iff racklessSecond (by decide)

/-- The first DC is gone, while its racks have a status. -/
theorem initCassandraRackList_drops_dc :
    (racklessSecond.topology.dc.map DC.name).Nodup ∧
      ¬ LosesNothing racklessSecond (initCassandraRackList racklessSecond) := by
  refine ⟨by decide, fun lossless => ?_⟩
  have kept := lossless.declared _ List.mem_cons_self
  revert kept
  decide

end Casskop
