import Casskop.Api.Topology

/-!
# Settings of a rack

Node count and rolling partition of a rack are looked up by the name of the rack, in all DCs
one after the other.  The searches, and the list of all rack names, end at the first DC that
declares no racks.
-/

namespace Casskop

/-- Behind a DC without racks there are only such DCs. -/
def Topology.RacksFirst (topology : Topology) : Prop :=
  topology.dc.Pairwise fun before after => before.rack = [] → after.rack = []

/-! ## The searches -/

/-- The DCs a search gets to. -/
def searchedDCs (dcs : List DC) : List DC := dcs.takeWhile fun dc => !dc.rack.isEmpty

variable {dc : DC}

section Searches

variable {dcs rest : List DC}

theorem searchedDCs_cons_of_rackless (rackless : dc.rack = []) : searchedDCs (dc :: rest) = [] := by
  simp [searchedDCs, rackless]

theorem searchedDCs_cons_of_racks (racks : dc.rack ≠ []) :
    searchedDCs (dc :: rest) = dc :: searchedDCs rest := by
  simp [searchedDCs, racks]

theorem dcRackNamesFrom_eq (dcs : List DC) :
    CassandraClusterSpec.dcRackNamesFrom dcs = (searchedDCs dcs).flatMap DC.rackNames := by
  induction dcs with
  | nil => rfl
  | cons dc rest induction =>
    unfold CassandraClusterSpec.dcRackNamesFrom
    by_cases rackless : dc.rack = []
    · rw [searchedDCs_cons_of_rackless rackless]
      simp [rackless]
    · rw [searchedDCs_cons_of_racks rackless, List.flatMap_cons, induction]
      simp [rackless, DC.rackNames]

theorem any_rack_eq (dc : DC) (dcRackName : String) :
    dc.rack.any (fun rack => dcRackName == getDCRackName dc.name rack.name) =
      dc.rackNames.contains dcRackName := by
  rw [DC.rackNames, List.contains_eq_any_beq, List.any_map]
  rfl

theorem nodesPerRacksFrom_eq (spec : CassandraClusterSpec) (dcRackName : String) (dcs : List DC) :
    spec.nodesPerRacksFrom dcRackName dcs =
      (((searchedDCs dcs).find? fun dc => dc.rackNames.contains dcRackName).bind
        DC.nodesPerRacks).getD spec.nodesPerRacks := by
  induction dcs with
  | nil => rfl
  | cons dc rest induction =>
    unfold CassandraClusterSpec.nodesPerRacksFrom
    by_cases rackless : dc.rack = []
    · rw [searchedDCs_cons_of_rackless rackless]
      simp [rackless]
    · rw [searchedDCs_cons_of_racks rackless, if_neg (by simp [rackless]), any_rack_eq,
        List.find?_cons]
      cases dc.rackNames.contains dcRackName with
      | true => rfl
      | false =>
        rw [if_neg (by simp), induction]

theorem rollingPartitionFrom_eq (dcRackName : String) (dcs : List DC) :
    CassandraClusterSpec.rollingPartitionFrom dcRackName dcs =
      ((((searchedDCs dcs).find? fun dc => dc.rackNames.contains dcRackName).bind fun dc =>
        dc.rack.find? fun rack => dcRackName == getDCRackName dc.name rack.name).map
          Rack.rollingPartition).getD 0 := by
  induction dcs with
  | nil => rfl
  | cons dc rest induction =>
    unfold CassandraClusterSpec.rollingPartitionFrom
    by_cases rackless : dc.rack = []
    · rw [searchedDCs_cons_of_rackless rackless]
      simp [rackless]
    · rw [searchedDCs_cons_of_racks rackless, if_neg (by simp [rackless]), List.find?_cons,
        ← any_rack_eq]
      cases found : dc.rack.find? fun rack => dcRackName == getDCRackName dc.name rack.name with
      | some rack =>
        have named : dc.rack.any (fun rack => dcRackName == getDCRackName dc.name rack.name) =
            true :=
          List.any_eq_true.mpr ⟨rack, List.mem_of_find?_eq_some found,
            by simpa using List.find?_some found⟩
        rw [named]
        simp [found]
      | none =>
        have unnamed : dc.rack.any
            (fun rack => dcRackName == getDCRackName dc.name rack.name) = false := by
          rw [List.any_eq_false]
          exact List.find?_eq_none.mp found
        rw [unnamed]
        exact induction

end Searches

/-! ## Topologies that are searched to their end -/

variable {name : String}

section Reached

variable {dcs : List DC}

theorem mem_searchedDCs (last : dcs.Pairwise fun before after => before.rack = [] → after.rack = [])
    (member : dc ∈ dcs) (racks : dc.rack ≠ []) : dc ∈ searchedDCs dcs := by
  induction dcs with
  | nil => cases member
  | cons first rest induction =>
    obtain ⟨behind, restLast⟩ := List.pairwise_cons.mp last
    rcases List.mem_cons.mp member with rfl | later
    · rw [searchedDCs_cons_of_racks racks]
      exact List.mem_cons_self
    · have firstRacks : first.rack ≠ [] := fun rackless => racks (behind dc later rackless)
      rw [searchedDCs_cons_of_racks firstRacks]
      exact List.mem_cons_of_mem _ (induction restLast later)

theorem rackNames_eq_nil : dc.rackNames = [] ↔ dc.rack = [] := by
  simp [DC.rackNames]

theorem searched_flatMap_of_last
    (last : dcs.Pairwise fun before after => before.rack = [] → after.rack = []) :
    (searchedDCs dcs).flatMap DC.rackNames = dcs.flatMap DC.rackNames := by
  induction dcs with
  | nil => rfl
  | cons first rest induction =>
    obtain ⟨behind, restLast⟩ := List.pairwise_cons.mp last
    by_cases rackless : first.rack = []
    · have none : rest.flatMap DC.rackNames = [] := by
        rw [List.flatMap_eq_nil_iff]
        exact fun dc member => rackNames_eq_nil.mpr (behind dc member rackless)
      rw [searchedDCs_cons_of_rackless rackless, List.flatMap_cons, none,
        rackNames_eq_nil.mpr rackless]
      rfl
    · rw [searchedDCs_cons_of_racks rackless, List.flatMap_cons, List.flatMap_cons,
        induction restLast]

/-- If no rack is missing from what is searched, the DCs without racks stand last. -/
theorem last_of_searched_length
    (all : (dcs.flatMap DC.rackNames).length ≤
      ((searchedDCs dcs).flatMap DC.rackNames).length) :
    dcs.Pairwise fun before after => before.rack = [] → after.rack = [] := by
  induction dcs with
  | nil => exact List.Pairwise.nil
  | cons first rest induction =>
    by_cases rackless : first.rack = []
    · rw [searchedDCs_cons_of_rackless rackless, List.flatMap_nil, List.length_nil,
        Nat.le_zero, List.length_eq_zero_iff, List.flatMap_eq_nil_iff] at all
      have none : ∀ dc ∈ rest, dc.rack = [] := fun dc member =>
        rackNames_eq_nil.mp (all dc (List.mem_cons_of_mem _ member))
      exact List.pairwise_cons.mpr ⟨fun dc member _ => none dc member,
        List.pairwise_of_forall_mem_list fun _ _ after member _ => none after member⟩
    · rw [searchedDCs_cons_of_racks rackless, List.flatMap_cons, List.flatMap_cons,
        List.length_append, List.length_append] at all
      exact List.pairwise_cons.mpr ⟨fun dc _ empty => absurd empty rackless,
        induction (by omega)⟩

/-- A name that is declared once is found where it is declared. -/
theorem find?_searchedDCs
    (last : dcs.Pairwise fun before after => before.rack = [] → after.rack = [])
    (once : (dcs.flatMap DC.rackNames).Nodup) (member : dc ∈ dcs) (declared : name ∈ dc.rackNames) :
    (searchedDCs dcs).find? (fun dc => dc.rackNames.contains name) = some dc := by
  have racks : dc.rack ≠ [] := by
    intro rackless
    rw [rackNames_eq_nil.mpr rackless] at declared
    cases declared
  have reached := mem_searchedDCs last member racks
  cases found : (searchedDCs dcs).find? fun dc => dc.rackNames.contains name with
  | none =>
    have missed := List.find?_eq_none.mp found dc reached
    simp [declared] at missed
  | some other =>
    have elsewhere : name ∈ other.rackNames := by simpa using List.find?_some found
    have otherMember : other ∈ dcs := List.takeWhile_subset _ (List.mem_of_find?_eq_some found)
    have symmetric : Std.Symm (Function.onFun List.Disjoint DC.rackNames) :=
      ⟨fun _ _ disjoint => List.Disjoint.symm disjoint⟩
    by_contra different
    have apart := (List.nodup_flatMap.mp once).2.forall otherMember member
      (fun same => different (congrArg some same))
    exact apart elsewhere declared

end Reached

/-! ## The settings of every rack -/

/-- Every declared rack has the settings of its own DC and its own ones, and is listed
once. -/
structure PerRackSettings (spec : CassandraClusterSpec) : Prop where
  nodes : ∀ dc ∈ spec.topology.dc, ∀ rack ∈ dc.rack,
    spec.getNodesPerRacks (getDCRackName dc.name rack.name) =
      dc.nodesPerRacks.getD spec.nodesPerRacks
  partition : ∀ dc ∈ spec.topology.dc, ∀ rack ∈ dc.rack,
    spec.getRollingPartitionPerRacks (getDCRackName dc.name rack.name) = rack.rollingPartition
  listed : spec.getDCRackNames.Perm spec.declaredRacks
  once : spec.getDCRackNames.Nodup

section Settings

variable {spec : CassandraClusterSpec}

theorem getNodesPerRacks_of_once (first : spec.topology.RacksFirst)
    (once : spec.declaredRacks.Nodup) (member : dc ∈ spec.topology.dc)
    (declared : name ∈ dc.rackNames) :
    spec.getNodesPerRacks name = dc.nodesPerRacks.getD spec.nodesPerRacks := by
  unfold CassandraClusterSpec.getNodesPerRacks
  rw [nodesPerRacksFrom_eq, find?_searchedDCs first once member declared]
  rfl

theorem getRollingPartitionPerRacks_of_once (first : spec.topology.RacksFirst)
    (once : spec.declaredRacks.Nodup) (member : dc ∈ spec.topology.dc) {rack : Rack}
    (declared : rack ∈ dc.rack) :
    spec.getRollingPartitionPerRacks (getDCRackName dc.name rack.name) = rack.rollingPartition := by
  have named : getDCRackName dc.name rack.name ∈ dc.rackNames := List.mem_map_of_mem declared
  have distinct : dc.rackNames.Nodup := (List.nodup_flatMap.mp once).1 dc member
  unfold CassandraClusterSpec.getRollingPartitionPerRacks
  rw [rollingPartitionFrom_eq, find?_searchedDCs first once member named, Option.bind_some]
  cases found : dc.rack.find? fun other =>
      getDCRackName dc.name rack.name == getDCRackName dc.name other.name with
  | none =>
    have missed := List.find?_eq_none.mp found rack declared
    simp at missed
  | some other =>
    have same : getDCRackName dc.name rack.name = getDCRackName dc.name other.name := by
      simpa using List.find?_some found
    rw [List.inj_on_of_nodup_map distinct declared (List.mem_of_find?_eq_some found) same]
    rfl

theorem perRackSettings_iff :
    PerRackSettings spec ↔ spec.topology.RacksFirst ∧ spec.declaredRacks.Nodup := by
  have names : spec.getDCRackNames = (searchedDCs spec.topology.dc).flatMap DC.rackNames :=
    dcRackNamesFrom_eq spec.topology.dc
  constructor
  · intro settings
    have listed := settings.listed
    rw [names] at listed
    exact ⟨last_of_searched_length listed.length_eq.ge, settings.listed.nodup_iff.mp settings.once⟩
  · rintro ⟨first, once⟩
    have all : spec.getDCRackNames = spec.declaredRacks :=
      names.trans (searched_flatMap_of_last first)
    refine ⟨fun dc member rack declared => ?_, fun dc member rack declared => ?_, ?_, ?_⟩
    · exact getNodesPerRacks_of_once first once member (List.mem_map_of_mem declared)
    · exact getRollingPartitionPerRacks_of_once first once member declared
    · rw [all]
    · rw [all]
      exact once

end Settings

/-! ## A DC without racks is added -/

section Added

variable {front back : List DC}

theorem searchedDCs_append_of_rackless {other : DC} (member : other ∈ front)
    (rackless : other.rack = []) (back : List DC) :
    searchedDCs (front ++ back) = searchedDCs front := by
  induction front with
  | nil => cases member
  | cons first rest induction =>
    by_cases empty : first.rack = []
    · rw [List.cons_append, searchedDCs_cons_of_rackless empty,
        searchedDCs_cons_of_rackless empty]
    · have later : other ∈ rest := by
        rcases List.mem_cons.mp member with rfl | later
        · exact absurd rackless empty
        · exact later
      rw [List.cons_append, searchedDCs_cons_of_racks empty, searchedDCs_cons_of_racks empty,
        induction later]

theorem searchedDCs_append_of_racks (racks : ∀ other ∈ front, other.rack ≠ [])
    (back : List DC) : searchedDCs (front ++ back) = front ++ searchedDCs back := by
  unfold searchedDCs
  apply List.takeWhile_append_of_pos
  intro other member
  simp [racks other member]

theorem nodesPerRacksFrom_added (spec : CassandraClusterSpec)
    (racks : ∀ other ∈ front, other.rack ≠ []) (rackless : dc.rack = [])
    (behind : name ∉ front.flatMap DC.rackNames) :
    spec.nodesPerRacksFrom name (front ++ dc :: back) = spec.nodesPerRacks := by
  have missed : front.find? (fun dc => dc.rackNames.contains name) = none := by
    rw [List.find?_eq_none]
    intro other member declared
    apply behind
    exact List.mem_flatMap.mpr ⟨other, member, by simpa using declared⟩
  rw [nodesPerRacksFrom_eq, searchedDCs_append_of_racks racks,
    searchedDCs_cons_of_rackless rackless, List.append_nil, missed]
  rfl

theorem nodesPerRacksFrom_in_front (spec : CassandraClusterSpec)
    (found : name ∈ front.flatMap DC.rackNames) (back other : List DC) :
    spec.nodesPerRacksFrom name (front ++ back) = spec.nodesPerRacksFrom name (front ++ other) := by
  rw [nodesPerRacksFrom_eq, nodesPerRacksFrom_eq]
  by_cases racks : ∀ other ∈ front, other.rack ≠ []
  · obtain ⟨declaring, member, declared⟩ := List.mem_flatMap.mp found
    have hits : (front.find? fun dc => dc.rackNames.contains name).isSome = true := by
      rw [List.find?_isSome]
      exact ⟨declaring, member, by simpa using declared⟩
    obtain ⟨hit, found⟩ := Option.isSome_iff_exists.mp hits
    rw [searchedDCs_append_of_racks racks, searchedDCs_append_of_racks racks,
      List.find?_append, List.find?_append, found]
    rfl
  · push Not at racks
    obtain ⟨empty, member, rackless⟩ := racks
    rw [searchedDCs_append_of_rackless member rackless,
      searchedDCs_append_of_rackless member rackless]

theorem nodesPerRacksFrom_kept_iff (spec : CassandraClusterSpec) (rackless : dc.rack = []) :
    (∀ name ∈ (front ++ back).flatMap DC.rackNames,
        spec.nodesPerRacksFrom name (front ++ dc :: back) =
          spec.nodesPerRacksFrom name (front ++ back)) ↔
      ((∀ other ∈ front, other.rack ≠ []) → ∀ name ∈ back.flatMap DC.rackNames,
        name ∉ front.flatMap DC.rackNames →
          spec.nodesPerRacksFrom name (front ++ back) = spec.nodesPerRacks) := by
  rw [List.flatMap_append]
  constructor
  · intro kept racks name declared behind
    rw [← kept name (List.mem_append_right _ declared)]
    exact nodesPerRacksFrom_added spec racks rackless behind
  · intro same name declared
    by_cases inFront : name ∈ front.flatMap DC.rackNames
    · exact nodesPerRacksFrom_in_front spec inFront _ _
    · have later : name ∈ back.flatMap DC.rackNames :=
        (List.mem_append.mp declared).resolve_left inFront
      by_cases racks : ∀ other ∈ front, other.rack ≠ []
      · rw [nodesPerRacksFrom_added spec racks rackless inFront, same racks name later inFront]
      · push Not at racks
        obtain ⟨empty, member, rackless⟩ := racks
        rw [nodesPerRacksFrom_eq, nodesPerRacksFrom_eq,
          searchedDCs_append_of_rackless member rackless,
          searchedDCs_append_of_rackless member rackless]

end Added

/-- The settings of the racks are their own ones when the DCs without racks stand last and no
two racks have one name.  A DC without racks that is added leaves the node counts alone when
the racks it hides have the global count anyway. -/
theorem rackSettings_own_iff (spec : CassandraClusterSpec) :
    (PerRackSettings spec ↔ spec.topology.RacksFirst ∧ spec.declaredRacks.Nodup) ∧
      ∀ front back dc, spec.topology.dc = front ++ back → dc.rack = [] →
        ((∀ name ∈ spec.declaredRacks,
            ({ spec with topology := { dc := front ++ dc :: back } }
              : CassandraClusterSpec).getNodesPerRacks name = spec.getNodesPerRacks name) ↔
          ((∀ other ∈ front, other.rack ≠ []) → ∀ name ∈ back.flatMap DC.rackNames,
            name ∉ front.flatMap DC.rackNames →
              spec.getNodesPerRacks name = spec.nodesPerRacks)) := by
  refine ⟨perRackSettings_iff, fun front back dc split rackless => ?_⟩
  have kept := @nodesPerRacksFrom_kept_iff dc front back spec rackless
  rw [← split] at kept
  have global : ∀ name dcs, CassandraClusterSpec.nodesPerRacksFrom
      { spec with topology := { dc := front ++ dc :: back } } name dcs =
        spec.nodesPerRacksFrom name dcs := by
    intro name dcs
    rw [nodesPerRacksFrom_eq, nodesPerRacksFrom_eq]
  unfold CassandraClusterSpec.getNodesPerRacks
  simp only [global]
  exact kept

def racklessFirst : CassandraClusterSpec :=
  { nodesPerRacks := 1
    topology :=
      { dc := [{ name := "dc1" },
          { name := "dc2"
            nodesPerRacks := some 3
            rack := [{ name := "rack1", rollingPartition := 2 }] }] } }

/-- The rack of `dc2` gets the global count and no partition, is not listed, and has lost two
nodes since `dc1` was added. -/
theorem racklessFirst_hides_rack :
    ¬ PerRackSettings racklessFirst ∧
      racklessFirst.getNodesPerRacks "dc2-rack1" = 1 ∧
      racklessFirst.getRollingPartitionPerRacks "dc2-rack1" = 0 ∧
      racklessFirst.getDCRackNames = [] ∧
      ({ racklessFirst with topology := { dc := racklessFirst.topology.dc.drop 1 } }
        : CassandraClusterSpec).getNodesPerRacks "dc2-rack1" = 3 := by
  refine ⟨fun settings => ?_, by decide +kernel, by decide +kernel, by decide +kernel,
    by decide +kernel⟩
  have listed := settings.listed.length_eq
  revert listed
  decide +kernel

end Casskop
