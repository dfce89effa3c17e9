import Casskop.MultiCasskop.Reconcile

/-!
# Who updates the seed list

MultiCasskop writes the seed lists of its sites, and CassKop is to leave them alone.
`CreateOrUpdateCassandraCluster` turns `AutoUpdateSeedList` off in the merged definition, but
only behind the creation, and behind the copy of the spec to the object it updates.
-/

namespace Casskop

/-- The spec of an object that is created or updated. -/
def Call.sentSpec : Call → Option CassandraClusterSpec
  | .createCluster _ cc => some cc.spec
  | .updateCluster _ cc => some cc.cluster.spec
  | _ => none

/-- The object cannot be read, or nothing of it differs. -/
inductive SiteUnwritten (cc : Definition) (answers : SiteAnswers) : Prop where
  | unread (error : ApiError) (failed : answers.get = .error error) (other : error ≠ .notFound)
  | same (stored : StoredCluster) (read : answers.get = .ok stored)
      (spec : specDiffers cc stored = false) (seeds : seedListDiffers cc stored = false)

/-- An update sends the flag of the definition: a spec that is kept has it, too. -/
theorem overwritten_autoUpdateSeedList (cc : Definition) (stored : StoredCluster) :
    (overwritten cc stored).cluster.spec.autoUpdateSeedList = cc.spec.autoUpdateSeedList := by
  have specified : (overwritten cc stored).cluster.spec =
      if specDiffers cc stored then cc.spec else unsetRollingRestart stored.cluster.spec := by
    simp only [overwritten]
    split <;> split <;> rfl
  rw [specified]
  split
  · rfl
  · rename_i same
    have equal : (unsetRollingRestart stored.cluster.spec).normalized = cc.spec.normalized := by
      simp only [specDiffers, Bool.or_eq_true, bne_iff_ne, not_or, not_not] at same
      exact same.1
    have flags := congrArg CassandraClusterSpec.autoUpdateSeedList equal
    exact flags

section Site

variable {site : Nat} {cc : Definition} {answers : SiteAnswers}

theorem createOrUpdateCassandraCluster_sentSpec {call : Call} {spec : CassandraClusterSpec}
    (member : call ∈ (createOrUpdateCassandraCluster site cc answers).calls)
    (sends : call.sentSpec = some spec) : spec.autoUpdateSeedList = cc.spec.autoUpdateSeedList := by
  unfold createOrUpdateCassandraCluster at member
  split at member
  · rcases List.mem_pair.mp member with rfl | rfl
    · cases sends
    · cases sends
      rfl
  · rw [List.mem_singleton.mp member] at sends
    cases sends
  · dsimp only at member
    split at member
    · rcases List.mem_pair.mp member with rfl | rfl
      · cases sends
      · cases sends
        exact overwritten_autoUpdateSeedList cc _
    · rw [List.mem_singleton.mp member] at sends
      cases sends

theorem createOrUpdateCassandraCluster_sends (written : ¬ SiteUnwritten cc answers) :
    ∃ call ∈ (createOrUpdateCassandraCluster site cc answers).calls,
      ∃ spec, call.sentSpec = some spec := by
  unfold createOrUpdateCassandraCluster
  split
  · exact ⟨_, List.mem_cons_of_mem _ List.mem_cons_self, _, rfl⟩
  · rename_i error other failed
    exact absurd (.unread error failed other) written
  · rename_i stored read
    dsimp only
    split
    · exact ⟨_, List.mem_cons_of_mem _ List.mem_cons_self, _, rfl⟩
    · rename_i same
      obtain ⟨spec, seeds⟩ := Bool.or_eq_false_iff.mp (Bool.eq_false_of_not_eq_true same)
      exact absurd (.same stored read spec seeds) written

theorem SiteUnwritten.silent (unwritten : SiteUnwritten cc answers) :
    (createOrUpdateCassandraCluster site cc answers).calls = [.getCluster site] := by
  cases unwritten with
  | unread error failed other => cases error <;> simp_all [createOrUpdateCassandraCluster]
  | same stored read spec seeds => simp [createOrUpdateCassandraCluster, read, spec, seeds]

end Site

/-- The objects that are sent have the flag off exactly when the merged definition has it
off, or nothing is sent. -/
theorem createOrUpdateCassandraCluster_seedFlag_iff (site : Nat) (cc : Definition)
    (answers : SiteAnswers) :
    (∀ call ∈ (createOrUpdateCassandraCluster site cc answers).calls, ∀ spec ∈ call.sentSpec,
        spec.autoUpdateSeedList = false) ↔
      cc.spec.autoUpdateSeedList = false ∨ SiteUnwritten cc answers := by
  constructor
  · intro off
    by_cases unwritten : SiteUnwritten cc answers
    · exact Or.inr unwritten
    · obtain ⟨call, member, spec, sends⟩ := createOrUpdateCassandraCluster_sends unwritten
      left
      rw [← createOrUpdateCassandraCluster_sentSpec member sends]
      exact off call member spec sends
  · rintro (off | unwritten) call member spec sends
    · exact (createOrUpdateCassandraCluster_sentSpec member sends).trans off
    · rw [unwritten.silent, List.mem_singleton] at member
      rw [member] at sends
      cases sends

def eagerDefinition : Definition :=
  { siteDefinition with spec := { siteDefinition.spec with autoUpdateSeedList := true } }

/-- Neither a site that is created nor one that is updated gets the flag off. -/
theorem seedFlag_sent :
    (∃ cc : Definition,
      .createCluster 0 cc ∈ (createOrUpdateCassandraCluster 0 eagerDefinition
        { readySite with get := .error .notFound }).calls ∧
      cc.spec.autoUpdateSeedList = true) ∧
    ∃ object : StoredCluster,
      .updateCluster 0 object ∈
        (createOrUpdateCassandraCluster 0 eagerDefinition readySite).calls ∧
      object.cluster.spec.autoUpdateSeedList = true := by
  constructor
  · exact ⟨eagerDefinition, List.mem_cons_of_mem _ List.mem_cons_self, rfl⟩
  · exact ⟨_, List.mem_cons_of_mem _ List.mem_cons_self, rfl⟩

end Casskop
