import Casskop.Validation.ChangeFilter
import Casskop.Validation.Topology

/-!
# Which topology edits pass `CheckTopologyChanges`

An edit is safe when it keeps every DC with its racks, except for one DC that
had been emptied.  The change filter guarantees this for every DC whose position
holds a changed DC on both sides.  What is left are the positions where the diff
sees a deleted DC; there the code relies on counting racks and on a positional
search for the removed DC.
-/

namespace Casskop

open SliceDiff

def SameRacks (before after : DC) : Prop :=
  ∀ name, name ∈ before.rack.map Rack.name ↔ name ∈ after.rack.map Rack.name

/-- The new topology declares the DC with the same set of rack names. -/
def KeptDC (new : Topology) (dc : DC) : Prop :=
  ∃ other ∈ new.dc, other.name = dc.name ∧ SameRacks dc other

/-- DCs of the old topology whose name the new one does not declare. -/
def missingDCs (old new : Topology) : List DC :=
  old.dc.filter fun dc => dc.name ∉ new.dc.map DC.name

/-- The DC is the only one that went missing and had no nodes. -/
def EmptiedDC (oldSpec : CassandraClusterSpec) (new : Topology) (dc : DC) : Prop :=
  missingDCs oldSpec.topology new = [dc] ∧
    dc.nodesPerRacks.getD oldSpec.nodesPerRacks = 0

def SafeEdit (oldSpec : CassandraClusterSpec) (new : Topology) : Prop :=
  ∀ dc ∈ oldSpec.topology.dc, KeptDC new dc ∨ EmptiedDC oldSpec new dc

/-- The kinds of deleted DCs an accepted edit must not have. -/
inductive UnsafeDeletion (oldSpec : CassandraClusterSpec) (new : Topology) (dc : DC) :
    Prop where
  /-- Declared again at another position, with other racks. -/
  | reracked (declared : dc.name ∈ new.dc.map DC.name)
      (changed : ∀ other ∈ new.dc, other.name = dc.name → ¬ SameRacks dc other)
  /-- Gone, with a node count that is not 0. -/
  | populated (gone : dc.name ∉ new.dc.map DC.name)
      (nodes : dc.nodesPerRacks.getD oldSpec.nodesPerRacks ≠ 0)
  /-- Gone together with another DC. -/
  | several (gone : dc.name ∉ new.dc.map DC.name)
      (others : missingDCs oldSpec.topology new ≠ [dc])

theorem not_unsafeDeletion_iff {oldSpec : CassandraClusterSpec} {new : Topology} {dc : DC} :
    ¬ UnsafeDeletion oldSpec new dc ↔ KeptDC new dc ∨ EmptiedDC oldSpec new dc := by
  constructor
  · intro safe
    by_cases declared : dc.name ∈ new.dc.map DC.name
    · left
      by_contra notKept
      apply safe
      refine .reracked declared ?_
      intro other otherMember sameName sameRacks
      exact notKept ⟨other, otherMember, sameName, sameRacks⟩
    · right
      constructor
      · by_contra others
        exact safe (.several declared others)
      · by_contra nodes
        exact safe (.populated declared nodes)
  · rintro (⟨other, otherMember, sameName, sameRacks⟩ | ⟨only, empty⟩) unsafeDC
    · have declared : dc.name ∈ new.dc.map DC.name :=
        List.mem_map.mpr ⟨other, otherMember, sameName⟩
      cases unsafeDC with
      | reracked _ changed => exact changed other otherMember sameName sameRacks
      | populated gone _ => exact gone declared
      | several gone _ => exact gone declared
    · cases unsafeDC with
      | reracked declared _ =>
        have missing : dc ∈ missingDCs oldSpec.topology new := by
          rw [only]
          exact List.mem_cons_self
        have gone := (List.mem_filter.mp missing).2
        exact (of_decide_eq_true gone) declared
      | populated _ nodes => exact nodes empty
      | several _ others => exact others only

/-! ## What the change filter guarantees -/

private theorem shared_swap {α : Type} [DecidableEq α] {items others : List α} {position : Nat}
    {item other : α} (member : (position, item, other) ∈ shared items others) :
    (position, other, item) ∈ shared others items :=
  mem_shared_iff.mpr (mem_shared_iff.mp member).symm

private theorem rackNames_subset {before after : List Rack}
    (noDeletion : ∀ rack, rack ∉ alone before after)
    (noUpdate : ∀ rack was is, (rack, was, is) ∈ shared before after →
      was.name = is.name) {name : String} (member : name ∈ before.map Rack.name) :
    name ∈ after.map Rack.name := by
  obtain ⟨rack, rackMember, rfl⟩ := List.mem_map.mp member
  rcases mem_cases after rackMember with
    kept | ⟨position, other, both⟩ | ⟨position, only⟩
  · exact List.mem_map.mpr ⟨rack, kept, rfl⟩
  · have otherMember := mem_of_mem_missing (mem_shared_iff.mp both).2
    exact List.mem_map.mpr ⟨other, otherMember, (noUpdate _ _ _ both).symm⟩
  · exact absurd only (noDeletion _)

/-- A DC changed in place keeps its name and its rack names. -/
theorem shared_kept {old new : Topology} (accepted : topologyChangeRefused old new = false)
    {position : Nat} {before after : DC} (both : (position, before, after) ∈ shared old.dc new.dc) :
    after.name = before.name ∧ SameRacks before after := by
  simp only [topologyChangeRefused, Bool.or_eq_false_iff] at accepted
  obtain ⟨⟨noUpdate, noDeletion⟩, noCreation⟩ := accepted
  have updateFree := fun changed => Bool.eq_false_iff.mp noUpdate
    ((hasUpdate_iff old new).mpr ⟨position, before, after, both, changed⟩)
  have deletionFree : ∀ rack, rack ∉ alone before.rack after.rack := fun rack only =>
    Bool.eq_false_iff.mp noDeletion
      ((hasRackDeletion_iff old new).mpr ⟨position, before, after, both, rack, only⟩)
  have creationFree : ∀ rack, rack ∉ alone after.rack before.rack := fun rack only =>
    Bool.eq_false_iff.mp noCreation
      ((hasRackCreation_iff old new).mpr ⟨position, before, after, both, rack, only⟩)
  have sameName : after.name = before.name := by
    by_contra differs
    exact updateFree (Or.inl (fun same => differs same.symm))
  have rackNames : ∀ rack was is, (rack, was, is) ∈ shared before.rack after.rack →
      was.name = is.name := by
    intro rack was is sharedRack
    by_contra differs
    exact updateFree (Or.inr ⟨rack, was, is, sharedRack, differs⟩)
  refine ⟨sameName, fun name => ⟨?_, ?_⟩⟩
  · exact rackNames_subset deletionFree rackNames
  · exact rackNames_subset creationFree (fun rack is was sharedRack =>
      (rackNames rack was is (shared_swap sharedRack)).symm)

/-- Past the change filter, an edit is safe as soon as its deletions are. -/
theorem safeEdit_iff_deletions {oldSpec : CassandraClusterSpec} {new : Topology}
    (accepted : topologyChangeRefused oldSpec.topology new = false) :
    SafeEdit oldSpec new ↔
      ∀ position dc, (position, dc) ∈ alone oldSpec.topology.dc new.dc →
        ¬ UnsafeDeletion oldSpec new dc := by
  constructor
  · intro safe position dc only
    have member : dc ∈ oldSpec.topology.dc := mem_of_mem_missing (mem_alone_iff.mp only).1
    exact not_unsafeDeletion_iff.mpr (safe dc member)
  · intro deletions dc member
    rcases mem_cases new.dc member with
      kept | ⟨position, other, both⟩ | ⟨position, only⟩
    · exact Or.inl ⟨dc, kept, rfl, fun _ => Iff.rfl⟩
    · obtain ⟨sameName, sameRacks⟩ := shared_kept accepted both
      have otherMember := mem_of_mem_missing (mem_shared_iff.mp both).2
      exact Or.inl ⟨other, otherMember, sameName, sameRacks⟩
    · exact not_unsafeDeletion_iff.mp (deletions position dc only)

/-! ## The verdict -/

theorem deleteDCObjects_action (cc : CassandraCluster) (status : CassandraClusterStatus)
    (order : MapOrder cc.status.cassandraRackStatus) :
    (deleteDCObjects cc status order).action ≠ .correctCRDConfig := by
  simp only [deleteDCObjects]
  split <;> simp

theorem checkTopologyChanges_refused_iff (cc : CassandraCluster) (status : CassandraClusterStatus)
    (oldSpec : CassandraClusterSpec) (order : MapOrder cc.status.cassandraRackStatus) :
    (checkTopologyChanges cc status oldSpec order).action = .correctCRDConfig ↔
      EditRefused cc oldSpec := by
  refine checkTopologyChanges_elim cc status oldSpec order ?refuses ?removes ?keeps
  case refuses =>
    intro refused
    exact iff_of_true rfl refused
  case removes =>
    intro removes
    exact iff_of_false (deleteDCObjects_action cc status order) removes.not_refused
  case keeps =>
    intro accepted _
    exact iff_of_false (by simp) accepted

/-- An accepted edit is safe unless the diff sees an unsafe deletion that none of
the tests stops: the rack total does not drop, or the positional search looks at
another DC. -/
theorem checkTopologyChanges_safe_iff (cc : CassandraCluster) (status : CassandraClusterStatus)
    (oldSpec : CassandraClusterSpec) (order : MapOrder cc.status.cassandraRackStatus) :
    ((checkTopologyChanges cc status oldSpec order).action ≠ .correctCRDConfig →
        SafeEdit oldSpec cc.spec.topology) ↔
      (∃ position dc,
          (position, dc) ∈ alone oldSpec.topology.dc cc.spec.topology.dc ∧
            UnsafeDeletion oldSpec cc.spec.topology dc) →
        topologyChangeRefused oldSpec.topology cc.spec.topology = true ∨
          cc.spec.getDCSize + 1 < oldSpec.getDCSize ∨
          (cc.spec.getDCRackSize < oldSpec.getDCRackSize ∧
            (scaleDownRunning cc = true ∨ removedDCHasNodes cc oldSpec = true)) := by
  rw [Ne, checkTopologyChanges_refused_iff, EditRefused]
  by_cases refused : topologyChangeRefused oldSpec.topology cc.spec.topology = true
  · simp [refused]
  · rw [safeEdit_iff_deletions (Bool.eq_false_iff.mpr refused)]
    constructor
    · rintro safe ⟨position, dc, only, unsafeDC⟩
      by_contra notRefused
      exact safe notRefused position dc only unsafeDC
    · intro stopped notRefused position dc only unsafeDC
      exact notRefused (stopped ⟨position, dc, only, unsafeDC⟩)

/-! ## A populated DC removed behind a reordering -/

def reorderedOld : CassandraClusterSpec :=
  { nodesPerRacks := 3
    topology :=
      { dc := [{ name := "dc1", rack := [{ name := "rack1" }], nodesPerRacks := some 0 },
          { name := "dc2", rack := [{ name := "rack1" }] },
          { name := "dc3", rack := [{ name := "rack1" }] }] } }

def runningRack : CassandraRackStatus :=
  { phase := .running
    cassandraLastAction := { name := .initializing, status := .done } }

def reorderedRacks : List (String × CassandraRackStatus) :=
  [("dc1-rack1", runningRack), ("dc2-rack1", runningRack), ("dc3-rack1", runningRack)]

def reorderedNew : CassandraCluster :=
  { metadata := { name := "demo", ns := "ns" }
    spec :=
      { nodesPerRacks := 3
        topology :=
          { dc := [{ name := "dc3", rack := [{ name := "rack1" }] },
              { name := "dc1", rack := [{ name := "rack1" }],
                nodesPerRacks := some 0 }] } }
    status :=
      { phase := .running
        lastClusterAction := .scaleDown
        lastClusterActionStatus := .done
        cassandraRackStatus := GoMap.ofList reorderedRacks } }

def reorderedOrder : MapOrder reorderedNew.status.cassandraRackStatus :=
  MapOrder.ofList reorderedRacks (by decide)

/-- Removing `dc2`, which has three nodes, while moving the emptied `dc1` to the
end is accepted: the search by position takes `dc1` for the removed DC. -/
theorem checkTopologyChanges_drops_populated_dc :
    ¬ ((checkTopologyChanges reorderedNew reorderedNew.status reorderedOld
        reorderedOrder).action ≠
          .correctCRDConfig →
        SafeEdit reorderedOld reorderedNew.spec.topology) := by
  intro claim
  have accepted : (checkTopologyChanges reorderedNew reorderedNew.status
      reorderedOld reorderedOrder).action ≠ .correctCRDConfig := by decide
  rcases claim accepted { name := "dc2", rack := [{ name := "rack1" }] }
    (by decide) with ⟨other, member, sameName, _⟩ | ⟨_, empty⟩
  · have absent : ∀ other ∈ reorderedNew.spec.topology.dc, other.name ≠ "dc2" := by
      decide
    exact absent other member sameName
  · exact absurd empty (by decide)

end Casskop
