import Casskop.Controller.Seeds

/-!
# Updates of the seed list

A seed list that follows the topology is merged with the one of the StatefulSet, so that
seeds which stay keep their places.  The merged list is stored as text, and it has to be the
list the next comparison asks for.
-/

namespace Casskop

/-! ## Merging -/

section Merge

variable (old new : List String)

theorem mem_mergeSlice_iff (name : String) : name ∈ mergeSlice old new ↔ name ∈ new := by
  unfold mergeSlice
  rw [List.mem_append, List.mem_filter, List.mem_filter]
  constructor
  · rintro (⟨_, inNew⟩ | ⟨inNew, _⟩)
    · simpa using inNew
    · exact inNew
  · intro inNew
    by_cases inOld : name ∈ old
    · exact Or.inl ⟨inOld, by simpa using inNew⟩
    · exact Or.inr ⟨inNew, by simpa using inOld⟩

theorem mergeSlice_merged : mergeSlice (mergeSlice old new) new = mergeSlice old new := by
  have kept : (mergeSlice old new).filter (fun item => new.contains item) =
      mergeSlice old new := by
    rw [List.filter_eq_self]
    intro name merged
    simpa using (mem_mergeSlice_iff old new name).mp merged
  have none : new.filter (fun item => !(mergeSlice old new).contains item) = [] := by
    rw [List.filter_eq_nil_iff]
    intro name inNew
    simpa using (mem_mergeSlice_iff old new name).mpr inNew
  rw [mergeSlice, kept, none, List.append_nil]

theorem mergeSlice_ne_nil {new : List String} (nonempty : new ≠ []) : mergeSlice old new ≠ [] := by
  obtain ⟨name, member⟩ := List.exists_mem_of_ne_nil new nonempty
  exact List.ne_nil_of_mem ((mem_mergeSlice_iff old new name).mpr member)

end Merge

/-! ## One rack -/

/-- `diff.Diff` reports a change. -/
def DiffReports (stored computed : List String) : Prop :=
  SliceDiff.missing stored computed ≠ [] ∨ SliceDiff.missing computed stored ≠ []

theorem mem_iff_of_not_diffReports {stored computed : List String}
    (quiet : ¬ DiffReports stored computed) (name : String) : name ∈ stored ↔ name ∈ computed := by
  unfold DiffReports at quiet
  push Not at quiet
  obtain ⟨forth, back⟩ := quiet
  constructor
  · intro member
    rcases SliceDiff.mem_or_missing computed member with found | ⟨index, missing⟩
    · exact found
    · simp [forth] at missing
  · intro member
    rcases SliceDiff.mem_or_missing stored member with found | ⟨index, missing⟩
    · exact found
    · simp [back] at missing

theorem nextSeedList_eq {cc : CassandraCluster} (auto : cc.spec.autoUpdateSeedList = true)
    (sts : StatefulSet) (seedList : List String) :
    (DiffReports (getStoredSeedList sts) (initSeedList cc.metadata cc.spec) →
      nextSeedList cc sts seedList =
        mergeSlice (getStoredSeedList sts) (initSeedList cc.metadata cc.spec)) ∧
    (¬ DiffReports (getStoredSeedList sts) (initSeedList cc.metadata cc.spec) →
      nextSeedList cc sts seedList = seedList) := by
  unfold nextSeedList DiffReports
  dsimp only
  constructor
  · intro reports
    rw [if_pos]
    simpa [auto] using reports
  · intro quiet
    rw [if_neg]
    simpa [auto] using quiet

section Update

variable {cc : CassandraCluster} {sts : StatefulSet} {stored : List String}

/-- Seeds that differ from those of the topology are merged, whatever the status says. -/
theorem nextSeedList_update (auto : cc.spec.autoUpdateSeedList = true)
    {name : String} (differs : ¬ (name ∈ getStoredSeedList sts ↔
      name ∈ initSeedList cc.metadata cc.spec)) (seedList : List String) :
    nextSeedList cc sts seedList =
      mergeSlice (getStoredSeedList sts) (initSeedList cc.metadata cc.spec) := by
  apply (nextSeedList_eq auto sts seedList).1
  by_contra quiet
  exact differs (mem_iff_of_not_diffReports quiet name)

/-- Once the merged list is stored, the next comparison gives it again. -/
theorem nextSeedList_merged (auto : cc.spec.autoUpdateSeedList = true)
    {seedList computed : List String} (computes : initSeedList cc.metadata cc.spec = computed)
    (stores : getStoredSeedList sts = mergeSlice stored computed)
    (held : seedList = mergeSlice stored computed ∨
      DiffReports (mergeSlice stored computed) computed) :
    nextSeedList cc sts seedList = mergeSlice stored computed := by
  subst computes
  by_cases reports : DiffReports (getStoredSeedList sts) (initSeedList cc.metadata cc.spec)
  · rw [(nextSeedList_eq auto sts seedList).1 reports, stores, mergeSlice_merged]
  · rw [(nextSeedList_eq auto sts seedList).2 reports]
    rw [stores] at reports
    exact held.resolve_right reports

theorem updateStatusIfSeedListHasChanged_eq_none {seedList : List String}
    (stores : getStoredSeedList sts = seedList) (rack : CassandraRackStatus) :
    updateStatusIfSeedListHasChanged sts seedList rack = none := by
  unfold updateStatusIfSeedListHasChanged
  rw [stores, if_neg (by simp)]

end Update

/-- Merging gives the computed seeds, those that stay first and in their old order, and does
so for good.  Seeds that differ put the merged list into the status; when it has been rolled
out to a rack the rack is left alone, and so is the list. -/
theorem seed_update_converges (stored computed : List String) (nonempty : computed ≠ [])
    (commaFree : ∀ seed ∈ computed, ',' ∉ seed.toList) :
    (∀ name, name ∈ mergeSlice stored computed ↔ name ∈ computed) ∧
      (∃ added, mergeSlice stored computed = stored.filter (· ∈ computed) ++ added ∧
        ∀ name ∈ added, name ∉ stored) ∧
      mergeSlice (mergeSlice stored computed) computed = mergeSlice stored computed ∧
      ∀ cc : CassandraCluster, cc.spec.autoUpdateSeedList = true →
        initSeedList cc.metadata cc.spec = computed →
        (∀ sts seedList, getStoredSeedList sts = stored →
          (∃ name, ¬ (name ∈ stored ↔ name ∈ computed)) →
            nextSeedList cc sts seedList = mergeSlice stored computed) ∧
        ∀ sts seedList rack, storedSeedText sts = some (seedListText (mergeSlice stored computed)) →
          seedList = mergeSlice stored computed ∨
            DiffReports (mergeSlice stored computed) computed →
          nextSeedList cc sts seedList = mergeSlice stored computed ∧
            updateStatusIfSeedListHasChanged sts (nextSeedList cc sts seedList) rack = none := by
  refine ⟨mem_mergeSlice_iff stored computed, ?_, mergeSlice_merged stored computed, ?_⟩
  · refine ⟨computed.filter fun item => !stored.contains item, ?_, ?_⟩
    · simp [mergeSlice, List.contains_eq_mem]
    · intro name added
      simpa using (List.mem_filter.mp added).2
  · rintro cc auto rfl
    refine ⟨?_, ?_⟩
    · rintro sts seedList rfl ⟨name, differs⟩
      exact nextSeedList_update auto differs seedList
    · intro sts seedList rack text held
      have stores : getStoredSeedList sts =
          mergeSlice stored (initSeedList cc.metadata cc.spec) := by
        apply getStoredSeedList_of_text text (mergeSlice_ne_nil stored nonempty)
        intro seed merged
        exact commaFree seed ((mem_mergeSlice_iff _ _ seed).mp merged)
      have next := nextSeedList_merged auto rfl stores held
      rw [next]
      exact ⟨rfl, updateStatusIfSeedListHasChanged_eq_none stores rack⟩

def followingCluster : CassandraCluster :=
  { metadata := { name := "demo", ns := "ns" }
    spec :=
      { nodesPerRacks := 2
        autoUpdateSeedList := true
        topology := { dc := [{ name := "dc1", rack := [{ name := "rack1" }] }] } } }

/-- The second node was a seed before, and so was a node that is gone. -/
def formerSeeds : List String :=
  ["demo-dc1-rack1-2.demo.ns", "demo-dc1-rack1-1.demo.ns", "demo-dc1-rack1-1.demo.ns"]

def mergedSeeds : List String :=
  ["demo-dc1-rack1-1.demo.ns", "demo-dc1-rack1-1.demo.ns", "demo-dc1-rack1-0.demo.ns"]

def mergedStatefulSet : StatefulSet :=
  { name := "demo-dc1-rack1"
    spec :=
      { replicas := 2
        template :=
          { initContainers :=
              [{ name := bootstrapContainerName
                 env := [{ name := cassandraSeeds, value := seedListText mergedSeeds }] }] } } }

theorem mergedSeeds_stay :
    nextSeedList followingCluster mergedStatefulSet mergedSeeds = mergedSeeds ∧
      updateStatusIfSeedListHasChanged mergedStatefulSet
        (nextSeedList followingCluster mergedStatefulSet mergedSeeds) initialRackStatus = none := by
  have merged : mergeSlice formerSeeds
      ["demo-dc1-rack1-0.demo.ns", "demo-dc1-rack1-1.demo.ns"] = mergedSeeds := by
    decide +kernel
  have converges := seed_update_converges formerSeeds
    ["demo-dc1-rack1-0.demo.ns", "demo-dc1-rack1-1.demo.ns"] (by decide) (by decide +kernel)
  rw [merged] at converges
  exact (converges.2.2.2 followingCluster rfl (by decide +kernel)).2 mergedStatefulSet mergedSeeds
    initialRackStatus (by decide +kernel) (Or.inl rfl)

end Casskop
